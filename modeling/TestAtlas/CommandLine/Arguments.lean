import TestAtlas.CommandLine.Token

/-!
Reading a command line by a grammar. Words go to the positions in their order,
as many at a time as stand together; what nothing takes is left over. An option
for help or for the version ends the reading where it stands.
-/

namespace TestAtlas
namespace CommandLine

/-- Why reading ends before the command line does. -/
inductive Early where
  | refused (problem : Problem)
  | help
  | version
  deriving DecidableEq, Repr

/-- What was read: the arguments of each option and position in the order of the command line,
and what is left over. -/
structure Arguments where
  given : List (String × List String) := []
  extra : List String := []
  deriving DecidableEq, Repr

namespace Arguments

def isOn (arguments : Arguments) (key : String) : Bool := arguments.given.any (·.1 == key)

/-- The value that was given last. -/
def value? (arguments : Arguments) (key : String) : Option String :=
  (arguments.given.reverse.find? (·.1 == key)).bind (·.2.head?)

/-- All values that were given. -/
def values (arguments : Arguments) (key : String) : List String :=
  (arguments.given.filter (·.1 == key)).flatMap (·.2)

def give (arguments : Arguments) (key : String) (values : List String) : Arguments :=
  { arguments with given := arguments.given ++ [(key, values)] }

def leave (arguments : Arguments) (texts : List String) : Arguments :=
  { arguments with extra := arguments.extra ++ texts }

end Arguments

/-- A problem as the reason to end. -/
def orRefuse {α : Type} (outcome : Except Problem α) : Except Early α :=
  outcome.mapError .refused

def isWord : Token → Bool
  | .word _ => true
  | _ => false

def isStop (token : Token) : Bool := token == .stop

/-- How many tokens in front a position takes; none if there is no word for it. -/
def Arity.count? (arity : Arity) (tokens : List Token) : Option Nat :=
  let stops := (tokens.takeWhile isStop).length
  match tokens.drop stops with
  | .word _ :: rest =>
      let more := match arity with
        | one => rest.takeWhile isStop
        | several => rest.takeWhile fun t => isWord t || isStop t
        | remainder => rest
      some (stops + 1 + more.length)
  | _ => none

/-- The arguments of a position. The first dashes that end the options are not one of them, except
where everything that follows is taken. -/
def Position.arguments (position : Position) (taken : List Token) : List String :=
  let texts := taken.map Token.text
  if position.arity = .remainder then texts else texts.erase Token.stopText

/-- A state of the reading. -/
structure Reading where
  tokens : List Token
  positions : List Position
  arguments : Arguments := {}

namespace Reading

/-- Gives words in front to the next positions, as long as there are words for them. -/
def fillPositions (tokens : List Token) (arguments : Arguments) :
    List Position → Except Early Reading
  | [] => .ok ⟨tokens, [], arguments⟩
  | position :: rest =>
      match position.arity.count? tokens with
      | none => .ok ⟨tokens, position :: rest, arguments⟩
      | some n => do
          let values := position.arguments (tokens.take n)
          orRefuse (values.head?.forM (position.content.check position.name))
          fillPositions (tokens.drop n) (arguments.give position.name values) rest

/-- Carries out a switch without a value. -/
def turnOn (switch : Switch) (arguments : Arguments) : Except Early Arguments :=
  match switch.effect with
  | .help => .error .help
  | .version => .error .version
  | _ => .ok (arguments.give switch.key [])

def turnAllOn (switches : List Switch) (arguments : Arguments) : Except Early Arguments :=
  switches.foldlM (fun arguments switch => turnOn switch arguments) arguments

def giveValue (switch : Switch) (value : String) (arguments : Arguments) :
    Except Early Arguments := do
  match switch.effect with
  | .take content => orRefuse (content.check switch.label value)
  | _ => pure ()
  return arguments.give switch.key [value]

/-- Takes an option with a value that is attached to it. Where an option with a single letter takes
none, the value consists of further such options; `before` are the ones before, in reverse. -/
def takeAttached (grammar : Grammar) (before : List Switch) (switch : Switch) (isShort : Bool)
    (arguments : Arguments) (value : List Char) : Except Early Arguments :=
  if switch.effect.takesValue then do
    giveValue switch (String.ofList value) (← turnAllOn before.reverse arguments)
  else
    let needless := Early.refused (.needlessValue switch.label (String.ofList value))
    match value with
    | [] => .error needless
    | c :: rest =>
        match grammar.switch? (String.ofList [Token.dash, c]) with
        | none => .error needless
        | some next =>
            if !isShort then .error needless
            else if rest.isEmpty then
              if next.effect.takesValue then .error (.refused (.noValue next.label))
              else turnAllOn (next :: switch :: before).reverse arguments
            else takeAttached grammar (switch :: before) next true arguments rest

/-- Takes an option and, if it needs one, the word after it as its value. -/
def takeOption (grammar : Grammar) (reading : Reading) (mention : Mention) (rest : List Token) :
    Except Early Reading := do
  let isShort := mention.spelling[1]? != some Token.dash
  match mention.attached? with
  | some value =>
      let arguments ← takeAttached grammar [] mention.switch isShort reading.arguments value
      return { reading with tokens := rest, arguments }
  | none =>
      if mention.switch.effect.takesValue then
        match rest with
        | .word value :: rest =>
            let arguments ← giveValue mention.switch value reading.arguments
            return { reading with tokens := rest, arguments }
        | _ => throw (.refused (.noValue mention.switch.label))
      else
        let arguments ← turnOn mention.switch reading.arguments
        return { reading with tokens := rest, arguments }

/-- Takes the first option, all tokens before it being left over. -/
def takeFirstOption (grammar : Grammar) (reading : Reading) : Except Early Reading :=
  let before := reading.tokens.takeWhile fun t => !t.isOption
  let arguments := reading.arguments.leave (before.map Token.text)
  match reading.tokens.dropWhile fun t => !t.isOption with
  | .option _ mention :: rest => takeOption grammar { reading with arguments } mention rest
  | .unknown text :: rest => .ok { reading with tokens := rest, arguments := arguments.leave [text] }
  | rest => .ok { reading with tokens := rest, arguments }

/-- One step: words in front go to positions, or else the first option is taken. -/
def step (grammar : Grammar) (reading : Reading) : Except Early Reading := do
  if reading.tokens.head?.any Token.isOption then takeFirstOption grammar reading
  else
    let filled ← fillPositions reading.tokens reading.arguments reading.positions
    if filled.tokens.length < reading.tokens.length then return filled
    else takeFirstOption grammar filled

/-- Steps while there are options; each step takes a token, so that `fuel` for all of them is
enough. -/
def steps (grammar : Grammar) (fuel : Nat) (reading : Reading) : Except Early Reading :=
  match fuel with
  | 0 => .ok reading
  | fuel + 1 =>
      if reading.tokens.any Token.isOption then do
        steps grammar fuel (← step grammar reading)
      else .ok reading

end Reading

/-- Reads a command line. Every position has to be filled. -/
def Grammar.read (grammar : Grammar) (arguments : List String) : Except Early Arguments := do
  let tokens ← orRefuse (Token.ofArguments grammar arguments)
  let reading ← Reading.steps grammar tokens.length ⟨tokens, grammar.positions, {}⟩
  let last ← Reading.fillPositions reading.tokens reading.arguments reading.positions
  if last.positions.isEmpty then return last.arguments.leave (last.tokens.map Token.text)
  else throw (.refused (.required (last.positions.map (·.name))))

end CommandLine
end TestAtlas
