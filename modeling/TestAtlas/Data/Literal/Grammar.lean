import TestAtlas.Data.Literal.Reader

/-!
Reading a term from tokens. A text that is no term is read a second time, now
with readers that look for known mistakes wherever they stand. What is wrong
with the tokens themselves comes before that. Reading stops at the first
mistake.
-/

namespace TestAtlas
namespace Literal

/-- An argument of a call. -/
inductive Argument where
  | unnamed
  | named
  /-- The fields of a record. -/
  | fields
  deriving DecidableEq

namespace Grammar

open TermReader

/-! Names and texts -/

/-- Names that used to begin statements. -/
def statementNames : List String := ["print", "exec"]

def isStatementName : Term → Bool
  | .name text => statementNames.contains text
  | _ => false

/-- Words that are reserved in some places only. -/
def softWords : List String := ["_", "case", "match"]

/-- Whether a name may grow to a word that is reserved in some places. -/
def isSoft (name : String) : Bool := softWords.any (name.toList.isPrefixOf ·.toList)

/-- Whether a name is next that may begin something else than a term. -/
def startsOddly : TermReader Bool :=
  follows do
    let name ← takeName
    if !isSoft name then
      match ← peek with
      | .text _ => pure ()
      | _ => failure

/-- One of the texts in quotes that stand side by side. -/
def takeText : TermReader TextForm := do
  match ← peek with
  | .text form => do
      skip
      return form
  | _ => failure

/-- Texts in quotes that stand side by side make one. -/
def combineTexts (forms : List TextForm) : TermReader Term := do
  for form in forms do
    match form.problem? with
    | some reason => stop (.inText reason)
    | none => if forms.head?.any (·.bytes != form.bytes) then stop .mixedTexts
  return if forms.any (·.filled) then .filledText else .text

/-! Operators -/

/-- The operators between terms by how tightly they bind, the loosest first. -/
def binaryLevels : List (List String) :=
  [["|"], ["^"], ["&"], ["<<", ">>"], ["+", "-"], ["*", "/", "//", "%", "@"]]

def combine (operator : String) (left right : Term) : Term :=
  if operator = "+" || operator = "-" then .sum left right else .operation

def comparisons : List String := ["==", "!=", "<=", "<", ">=", ">", "in", "is"]

/-- The operators that compare, two of which have two words. The answer is whether it looks for
something in something else. -/
def takeComparison : TermReader Bool :=
  (do
    take "not"
    take "in"
    return false) <|>
  (do
    take "is"
    take "not"
    return false) <|>
  (do return (← takeOf comparisons) == "in")

/-! Parameters without defaults -/

/-- What stands behind a parameter. -/
def parameterEnd : TermReader Unit := take "," <|> expect [":"]

def plainParameter : TermReader Unit := do
  let _ ← takeName
  parameterEnd

/-- The slash behind the parameters that have no names for callers. -/
def slash : TermReader Unit := do
  take "/"
  parameterEnd

/-- Whether there is a slash, which only counts behind other parameters. -/
def hasSlash (others : List Unit) : TermReader Bool :=
  if others.isEmpty then return false else accepts slash

/-- The parameter for fields that have no parameter of their own. -/
def fieldsParameter (explain : Bool) : TermReader Unit := do
  if explain then
    stopIf (do
      take "**"
      let _ ← takeName
      take "=") fun _ => .defaultOfFields
    stopIf (do
      take "**"
      let _ ← takeName
      take ","
      (do
        let _ ← takeName) <|> (do
        let _ ← takeOf ["*", "**", "/"])) fun _ => .parameterBehindFields
  take "**"
  plainParameter

mutual

def expression (explain : Bool) : Nat → TermReader Term
  | 0 => failure
  | fuel + 1 => remember .expression do
      if explain then adviseExpression fuel
      unadvised explain fuel

/-- A term at whose start no mistakes are looked for. -/
def unadvised (explain : Bool) : Nat → TermReader Term
  | 0 => failure
  | fuel + 1 => do
      match ← option (disjunction explain fuel) with
      | none => function explain fuel
      | some first =>
          (do
            take "if"
            let _ ← disjunction explain fuel
            take "else"
            let _ ← expression explain fuel
            return .conditional) <|> pure first

/-- Mistakes behind the first part of a term. -/
def adviseExpression : Nat → TermReader Unit
  | 0 => pure ()
  | fuel + 1 => do
      let start ← place
      let odd ← startsOddly
      match ← option (disjunction true fuel) with
      | none => pure ()
      | some first => do
          if !odd then
            stopIf (do
              let _ ← unadvised false fuel
              let behind ← place
              if isStatementName first || behind.level = 0 then failure) fun _ => .forgottenComma
          stopIf (do
            take "if"
            let _ ← disjunction true fuel
            refuse ["else", ":"]) fun _ => .missingElse
          goTo start
          stopIf (do
            let name ← takeName
            refuse ["("]
            let _ ← starTerms true fuel
            if statementNames.contains name then return name else failure) .oldStatement

def disjunction (explain : Bool) : Nat → TermReader Term
  | 0 => failure
  | fuel + 1 => remember .disjunction do
      let first ← conjunction explain fuel
      let others ← many (do
        take "or"
        conjunction explain fuel) fuel
      return if others.isEmpty then first else .operation

def conjunction (explain : Bool) : Nat → TermReader Term
  | 0 => failure
  | fuel + 1 => do
      let first ← inversion explain fuel
      let others ← many (do
        take "and"
        inversion explain fuel) fuel
      return if others.isEmpty then first else .operation

def inversion (explain : Bool) : Nat → TermReader Term
  | 0 => failure
  | fuel + 1 =>
      (do
        take "not"
        let _ ← inversion explain fuel
        return .operation) <|>
      (do
        let first ← bitwise explain fuel
        let others ← many (do
          let seeks ← takeComparison
          let _ ← bitwise explain fuel
          return seeks) fuel
        match others with
        | [] => return first
        | seeks :: _ => return .comparison (if seeks then some first else none))

/-- A term with operators that do not compare. -/
def bitwise (explain : Bool) : Nat → TermReader Term
  | 0 => failure
  | fuel + 1 => remember .bitwise (binary explain binaryLevels fuel)

def binary (explain : Bool) (levels : List (List String)) : Nat → TermReader Term
  | 0 => failure
  | fuel + 1 =>
      match levels with
      | [] => factor explain fuel
      | signs :: tighter => do
          let first ← binary explain tighter fuel
          let others ← many (do
            let sign ← takeOf signs
            return (sign, ← binary explain tighter fuel)) fuel
          return others.foldl (fun left (sign, right) => combine sign left right) first

def factor (explain : Bool) : Nat → TermReader Term
  | 0 => failure
  | fuel + 1 =>
      (do
        let sign ← takeOf ["+", "-", "~"]
        let term ← factor explain fuel
        return if sign = "~" then .operation else .signed term) <|>
      (do
        let base ← awaited explain fuel
        let exponent? ← option do
          take "**"
          factor explain fuel
        return if exponent?.isSome then .operation else base)

def awaited (explain : Bool) : Nat → TermReader Term
  | 0 => failure
  | fuel + 1 =>
      (do
        take "await"
        let _ ← primary explain fuel
        return .awaited) <|> primary explain fuel

def primary (explain : Bool) : Nat → TermReader Term
  | 0 => failure
  | fuel + 1 => remember .primary do
      let first ← atom explain fuel
      let trailers ← many (trailer explain fuel) fuel
      return trailers.foldl (fun term trailer => trailer term) first

/-- A part or a call of the term in front. -/
def trailer (explain : Bool) : Nat → TermReader (Term → Term)
  | 0 => failure
  | fuel + 1 =>
      (do
        take "."
        let _ ← takeName
        return fun _ => .part) <|>
      (do
        let _ ← generator explain fuel
        return fun term => .call term 1) <|>
      (do
        take "("
        let given? ← option (arguments explain fuel)
        take ")"
        return fun term => .call term (given?.getD []).length)

def atom (explain : Bool) : Nat → TermReader Term
  | 0 => failure
  | fuel + 1 => do
      match ← peek with
      | .name text => do
          skip
          return .name text
      | .number imaginary => do
          skip
          return .number imaginary
      | .text _ => combineTexts (← many takeText (fuel + 1))
      | .sign word =>
          if word = "..." then
            skip
            return .ellipsis
          else if word ∈ ["None", "True", "False"] then
            skip
            return .constant word
          else if word = "(" then
            tuple explain fuel <|> group explain fuel <|> generator explain fuel
          else if word = "\x7b" then braced explain fuel
          else failure
      | _ => failure

def function (explain : Bool) : Nat → TermReader Term
  | 0 => failure
  | fuel + 1 => do
      take "lambda"
      if explain then adviseParameters fuel
      let _ ← option (parameters explain fuel)
      take ":"
      let _ ← expression explain fuel
      return .function

def defaultValue (explain : Bool) : Nat → TermReader Unit
  | 0 => failure
  | fuel + 1 =>
      (do
        take "="
        let _ ← expression explain fuel
        pure ()) <|>
      (do
        if explain then
          stopIf (do
            take "="
            expect [")", ","]) fun _ => .missingDefault
        failure)

def defaultedParameter (explain : Bool) : Nat → TermReader Unit
  | 0 => failure
  | fuel + 1 => do
      let _ ← takeName
      defaultValue explain fuel
      parameterEnd

def anyParameter (explain : Bool) : Nat → TermReader Unit
  | 0 => failure
  | fuel + 1 => do
      let _ ← takeName
      let _ ← option (defaultValue explain fuel)
      parameterEnd

def parameters (explain : Bool) : Nat → TermReader Unit
  | 0 => failure
  | fuel + 1 => do
      let plain ← many plainParameter fuel
      if ← hasSlash plain then
        let _ ← many plainParameter fuel
        let _ ← many (defaultedParameter explain fuel) fuel
        let _ ← option (starParameters explain fuel)
      else
        let defaulted ← many (defaultedParameter explain fuel) fuel
        if ← hasSlash defaulted then
          let _ ← many (defaultedParameter explain fuel) fuel
          let _ ← option (starParameters explain fuel)
        else if plain.isEmpty && defaulted.isEmpty then starParameters explain fuel
        else
          let _ ← option (starParameters explain fuel)

/-- Parameters for items, and those behind them. -/
def starParameters (explain : Bool) : Nat → TermReader Unit
  | 0 => failure
  | fuel + 1 => do
      if explain then
        stopIf (do
          take "*"
          expect [":"] <|> (do
            take ","
            expect [":", "**"])) fun _ => .nothingBehindStar
        stopIf (do
          take "*"
          let _ ← takeName
          take "=") fun _ => .defaultOfItems
        stopIf (do
          take "*"
          plainParameter <|> take ","
          let _ ← many (anyParameter explain fuel) fuel
          take "*"
          plainParameter <|> take ",") fun _ => .secondStar
      (do
        take "*"
        plainParameter
        let _ ← many (anyParameter explain fuel) fuel
        let _ ← option (fieldsParameter explain)) <|>
      (do
        take "*"
        take ","
        let _ ← several (anyParameter explain fuel) fuel
        let _ ← option (fieldsParameter explain)) <|>
      fieldsParameter explain

/-- Mistakes in the parameters of a function. -/
def adviseParameters : Nat → TermReader Unit
  | 0 => pure ()
  | fuel + 1 => do
      let defaulted := defaultedParameter true fuel
      let others := many (anyParameter true fuel) fuel
      let plainFront := do
        let _ ← several plainParameter fuel
        slash
      let defaultedFront := do
        let _ ← many plainParameter fuel
        let _ ← several defaulted fuel
        slash
      stopIf (do
        let _ ← many plainParameter fuel
        defaultedFront <|> (do
          let _ ← several defaulted fuel)
        plainParameter) fun _ => .bareBehindDefault
      stopIf (do
        let _ ← many plainParameter fuel
        take "("
        let _ ← listed takeName fuel
        take ")") fun _ => .bracketsAroundParameters
      stopIf (do
        take "/"
        take ",") fun _ => .nothingBeforeSlash
      stopIf (do
        plainFront <|> defaultedFront
        let _ ← others
        take "/") fun _ => .secondSlash
      stopIf (do
        let _ ← option (plainFront <|> defaultedFront)
        let _ ← others
        take "*"
        take "," <|> plainParameter
        let _ ← others
        take "/") fun _ => .slashBehindStar
      stopIf (do
        let _ ← several (anyParameter true fuel) fuel
        take "/"
        take "*") fun _ => .noCommaBehindSlash

/-- A term, or the items of one. -/
def starTerm (explain : Bool) : Nat → TermReader Term
  | 0 => failure
  | fuel + 1 =>
      (do
        take "*"
        return .starred (← bitwise explain fuel)) <|> expression explain fuel

/-- Terms with commas between them, where none may have a name. -/
def starTerms (explain : Bool) : Nat → TermReader Term
  | 0 => failure
  | fuel + 1 => do
      match ← separated (starTerm explain fuel) fuel, ← accepts (take ",") with
      | [term], false => return term
      | terms, _ => return .tuple terms

/-- A term that may have a name, or the items of one. -/
def starNamed (explain : Bool) : Nat → TermReader Term
  | 0 => failure
  | fuel + 1 =>
      (do
        take "*"
        return .starred (← bitwise explain fuel)) <|> named explain fuel

def assignment (explain : Bool) : Nat → TermReader Term
  | 0 => failure
  | fuel + 1 => do
      let _ ← takeName
      take ":="
      let _ ← expression explain fuel
      return .named

/-- A term that may have a name. -/
def named (explain : Bool) : Nat → TermReader Term
  | 0 => failure
  | fuel + 1 =>
      assignment explain fuel <|> (do
        if explain then adviseNamed fuel
        let term ← expression explain fuel
        refuse [":="]
        return term)

/-- Mistakes where terms are named. -/
def adviseNamed : Nat → TermReader Unit
  | 0 => pure ()
  | fuel + 1 => do
      stopIf (do
        let term ← expression true fuel
        take ":="
        let _ ← expression true fuel
        return term) .namedTerm
      stopIf (do
        let _ ← takeName
        take "="
        let _ ← bitwise true fuel
        refuse ["=", ":="]) fun _ => .equalsBehindName
      if !(← isNext ["None", "True", "False"]) then
        if !(← follows (tuple true fuel <|> generator true fuel)) then
          stopIf (do
            let term ← bitwise true fuel
            take "="
            let _ ← bitwise true fuel
            refuse ["=", ":="]
            return term) .equalsBehind

/-- A term behind a star. -/
def starred (explain : Bool) : Nat → TermReader Term
  | 0 => failure
  | fuel + 1 => do
      take "*"
      match ← option (expression explain fuel) with
      | some term => return .starred term
      | none => stop .strayStar

def tuple (explain : Bool) : Nat → TermReader Term
  | 0 => failure
  | fuel + 1 => do
      take "("
      let items? ← option do
        let first ← starNamed explain fuel
        take ","
        let others? ← option (listed (starNamed explain fuel) fuel)
        return first :: others?.getD []
      take ")"
      return .tuple (items?.getD [])

/-- A term in brackets that only keep it together. -/
def group (explain : Bool) : Nat → TermReader Term
  | 0 => failure
  | fuel + 1 =>
      (do
        take "("
        let term ← yielded explain fuel <|> named explain fuel
        take ")"
        return term) <|>
      (do
        if explain then
          stopIf (do
            take "("
            let _ ← starred explain fuel
            take ")") fun _ => .starInBrackets
          stopIf (do
            take "("
            take "**"
            let _ ← expression explain fuel
            take ")") fun _ => .twoStarsInBrackets
        failure)

def yielded (explain : Bool) : Nat → TermReader Term
  | 0 => failure
  | fuel + 1 => do
      take "yield"
      (do
        take "from"
        let _ ← expression explain fuel) <|> (do
        let _ ← option (starTerms explain fuel))
      return .yielded

def generator (explain : Bool) : Nat → TermReader Term
  | 0 => failure
  | fuel + 1 =>
      (do
        take "("
        let _ ← unnamed explain fuel
        clauses explain fuel
        take ")"
        return .generator) <|>
      (do
        if explain then adviseComprehension fuel
        failure)

/-- Mistakes in front of what a comprehension goes through. -/
def adviseComprehension : Nat → TermReader Unit
  | 0 => pure ()
  | fuel + 1 => do
      stopIf (do
        let _ ← takeOf ["(", "\x7b"]
        let _ ← starred true fuel
        clauses true fuel) fun _ => .starredComprehension
      stopIf (do
        take "\x7b"
        let _ ← starNamed true fuel
        take ","
        let _ ← option (listed (starNamed true fuel) fuel)
        clauses true fuel) fun _ => .bareTerms

/-- What a comprehension goes through. -/
def clauses (explain : Bool) : Nat → TermReader Unit
  | 0 => failure
  | fuel + 1 => do
      let _ ← several (clause explain fuel) fuel

def clause (explain : Bool) : Nat → TermReader Unit
  | 0 => failure
  | fuel + 1 => do
      let beginning := do
        let _ ← option (take "async")
        take "for"
      if ← accepts (do
          beginning
          targets explain fuel
          take "in") then
        let _ ← disjunction explain fuel
        let _ ← many (do
          take "if"
          disjunction explain fuel) fuel
      else
        if explain then
          stopIf (do
            beginning
            match (← starTerms explain fuel).fixedPart? with
            | some term => return term
            | none => failure) .fixedTarget
        failure

/-- What values can be given to. -/
def targets (explain : Bool) : Nat → TermReader Unit
  | 0 => failure
  | fuel + 1 => do
      let _ ← listed (do
        let _ ← option (take "*")
        if !(← primary explain fuel).isTarget then failure) fuel

/-- What stands in curly brackets. -/
def braced (explain : Bool) : Nat → TermReader Term
  | 0 => failure
  | fuel + 1 =>
      (do
        take "\x7b"
        let pairs? ← option (listed (pair explain fuel) fuel)
        take "\x7d"
        return .record (pairs?.getD [])) <|>
      (do
        take "\x7b"
        advisePairs explain fuel
        failure) <|>
      (do
        take "\x7b"
        let terms ← listed (starNamed explain fuel) fuel
        take "\x7d"
        return .set terms) <|>
      (do
        take "\x7b"
        let _ ← keyed explain fuel
        clauses explain fuel
        take "\x7d"
        return .recordComprehension) <|>
      (do
        if explain then
          stopIf (do
            take "\x7b"
            take "**"
            let _ ← bitwise explain fuel
            clauses explain fuel) fun _ => .recordInComprehension
        failure) <|>
      (do
        take "\x7b"
        let _ ← named explain fuel
        clauses explain fuel
        take "\x7d"
        return .setComprehension) <|>
      (do
        if explain then adviseComprehension fuel
        failure)

/-- A key with a value. -/
def keyed (explain : Bool) : Nat → TermReader (Option Term × Term)
  | 0 => failure
  | fuel + 1 => do
      let key ← expression explain fuel
      take ":"
      return (some key, ← expression explain fuel)

/-- A key with a value, or a record whose pairs are taken over. -/
def pair (explain : Bool) : Nat → TermReader (Option Term × Term)
  | 0 => failure
  | fuel + 1 =>
      (do
        take "**"
        return (none, ← bitwise explain fuel)) <|> keyed explain fuel

/-- Mistakes in pairs, which are looked for in any case. -/
def advisePairs (explain : Bool) : Nat → TermReader Unit
  | 0 => pure ()
  | fuel + 1 => do
      let start ← place
      if ← accepts (do
          let _ ← separated (pair explain fuel) fuel
          take ",") then
        stopIf (do
          let _ ← expression explain fuel
          refuse [":"]) fun _ => .missingColon
        adviseValue explain fuel
        goTo start
      adviseValue explain fuel

/-- Mistakes behind a key. -/
def adviseValue (explain : Bool) : Nat → TermReader Unit
  | 0 => pure ()
  | fuel + 1 => do
      stopIf (do
        let _ ← expression explain fuel
        take ":"
        take "*"
        bitwise explain fuel) fun _ => .starredValue
      stopIf (do
        let _ ← expression explain fuel
        take ":"
        expect ["\x7d", ","]) fun _ => .missingValue

/-- The arguments of a call up to the bracket that closes them. -/
def arguments (explain : Bool) : Nat → TermReader (List Argument)
  | 0 => failure
  | fuel + 1 =>
      (do
        let found ← given explain fuel
        let _ ← option (take ",")
        expect [")"]
        return found) <|>
      (do
        if explain then adviseArguments fuel
        failure)

/-- An argument without a name. -/
def unnamed (explain : Bool) : Nat → TermReader Term
  | 0 => failure
  | fuel + 1 =>
      assignment explain fuel <|> (do
        let term ← expression explain fuel
        refuse [":="]
        return term)

/-- An argument without a name, or the items of one. -/
def starUnnamed (explain : Bool) : Nat → TermReader Argument
  | 0 => failure
  | fuel + 1 =>
      (do
        let _ ← starred explain fuel
        return .unnamed) <|>
      (do
        let _ ← unnamed explain fuel
        refuse ["="]
        return .unnamed)

/-- Arguments, those with names behind the others. -/
def given (explain : Bool) : Nat → TermReader (List Argument)
  | 0 => failure
  | fuel + 1 =>
      (do
        let first ← separated (starUnnamed explain fuel) fuel
        let others? ← option do
          take ","
          keywords explain fuel
        return first ++ others?.getD []) <|> keywords explain fuel

/-- Arguments with names, and items, with fields behind them. -/
def keywords (explain : Bool) : Nat → TermReader (List Argument)
  | 0 => failure
  | fuel + 1 =>
      (do
        let first ← separated (keywordOrItems explain fuel) fuel
        let others? ← option do
          take ","
          separated (keywordOrFields explain fuel) fuel
        return first ++ others?.getD []) <|> separated (keywordOrFields explain fuel) fuel

def keyword (explain : Bool) : Nat → TermReader Argument
  | 0 => failure
  | fuel + 1 => do
      if explain then adviseKeyword fuel
      let _ ← takeName
      take "="
      let _ ← expression explain fuel
      return .named

def keywordOrItems (explain : Bool) : Nat → TermReader Argument
  | 0 => failure
  | fuel + 1 =>
      keyword explain fuel <|> (do
        let _ ← starred explain fuel
        return .unnamed)

def keywordOrFields (explain : Bool) : Nat → TermReader Argument
  | 0 => failure
  | fuel + 1 =>
      keyword explain fuel <|> (do
        take "**"
        let _ ← expression explain fuel
        return .fields)

/-- Mistakes in an argument that has a name. -/
def adviseKeyword : Nat → TermReader Unit
  | 0 => pure ()
  | fuel + 1 => do
      stopIf (do
        let word ← takeOf ["True", "False", "None"]
        take "="
        return word) .reservedName
      stopIf (do
        let _ ← takeName
        take "="
        let _ ← expression true fuel
        clauses true fuel) fun _ => .equalsBehindName
      let isNamed ← follows do
        let _ ← takeName
        take "="
      if !isNamed then
        stopIf (do
          let _ ← expression true fuel
          take "=") fun _ => .equalsInArgument

/-- Mistakes in the arguments of a call. -/
def adviseArguments : Nat → TermReader Unit
  | 0 => pure ()
  | fuel + 1 => do
      let generated := do
        let _ ← expression true fuel
        clauses true fuel
      stopIf (do
        (do
          let _ ← separated (starUnnamed true fuel) fuel
          take ","
          let _ ← keywords true fuel) <|> (do
          let _ ← keywords true fuel)
        take ","
        let _ ← separated (do
          let _ ← starred true fuel
          refuse ["="]) fuel) fun _ => .itemsBehindFields
      stopIf (do
        generated
        take ","
        let _ ← option ((do
          let _ ← given true fuel) <|> generated)) fun _ => .bareGenerator
      stopIf (do
        let _ ← takeName
        take "="
        generated) fun _ => .equalsBehindName
      stopIf (do
        let arguments ← given true fuel
        clauses true fuel
        if arguments.count .unnamed ≤ 1 then failure) fun _ => .bareGenerator
      stopIf (do
        let _ ← given true fuel
        take ","
        generated) fun _ => .bareGenerator
      stopIf (do
        let first ← given true fuel
        take ","
        let _ ← given true fuel
        return first) fun first =>
          if first.contains .fields then .unnamedBehindFields else .unnamedBehindNamed

end

/-! Whole texts -/

/-- Stops where a line has blanks in front. -/
def refuseIndentation : TermReader Unit := do
  if (← peek) = .indentation then halt (.atToken "unexpected indent")

/-- A term, or several of them with commas between, and nothing else. -/
def whole (explain : Bool) (fuel : Nat) : TermReader Term := do
  refuseIndentation
  let terms ← separated (expression explain fuel) fuel
  let trailing ← accepts (take ",")
  let _ ← many takeLineEnd fuel
  refuseIndentation
  if (← peek) = .finish then
    match terms, trailing with
    | [term], false => return term
    | _, _ => return .tuple terms
  else failure

/-- The reason why a text is no term, given a reason that was found while some of its tokens were
seen. What is no token at all comes first, and so does a bracket on an earlier line that is never
closed. -/
def verdict (tokens : List Token) (seen : Seen) (reason : String) : String :=
  let last? := tokens.findSome? fun token =>
    match token.kind with
    | .broken reason => some reason
    | .stuck _ inside? => some <|
        match inside? with
        | some bracket => if bracket.line < seen.line then Token.neverClosed bracket else reason
        | none => reason
    | _ => none
  last?.getD reason

/-- The reason why reading has stopped. -/
def reasonOf (tokens : List Token) : Halt → String
  | .atToken reason => reason
  | .mistake mistake seen =>
      if seen.toTheEnd then mistake.message else verdict tokens seen mistake.message

/-- How deep readers call one another for each token. -/
def depthPerToken : Nat := 40

/-- The term that a text is. -/
def read (text : List Char) : Except String Term := do
  if text.contains '\x00' then throw "source code string cannot contain null bytes"
  let tokens := Token.read text
  let fuel := depthPerToken * (tokens.length + 1)
  let start : Place := { rest := tokens }
  let (term?, first) ← ((whole false fuel).run { place := start }).mapError (reasonOf tokens)
  match term? with
  | some term => return term
  | none => do
      let again : ReadingState := { place := start, seen := first.seen }
      let (_, second) ← ((whole true fuel).run again).mapError (reasonOf tokens)
      throw (verdict tokens second.seen "invalid syntax")

end Grammar
end Literal
end TestAtlas
