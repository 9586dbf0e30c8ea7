import TestAtlas.CodeView.LineInfo
import TestAtlas.Proofs.Bytes.Reading
import TestAtlas.Proofs.CodeView.Checksums

/-!
Line information that is written as subsections, and what a walk over it takes
from a line table and from a checksum table.
-/

namespace TestAtlas
namespace CodeView

open LittleEndian

namespace LineInfo

variable {a b body : Bytes} {f g : LineInfo → LineInfo}

/-- A subsection as it is written. -/
def writeSubsection (kind : Nat) (body : Bytes) : Bytes :=
  encode 4 kind ++ encode 4 body.length ++ body

@[simp] theorem length_writeSubsection (kind : Nat) (body : Bytes) :
    (writeSubsection kind body).length = headerSize + body.length := by
  simp only [writeSubsection, List.length_append, length_encode, headerSize]

/-- Takes over one subsection; one that is malformed leaves what there was. -/
def takeOver (info : LineInfo) (kind : Nat) (body : Bytes) : LineInfo × Option ReadError :=
  match info.addSubsection kind body with
  | .ok later => (later, none)
  | .error cause => (info, some cause)

/-- Goes on with more bytes, unless something before them was malformed. -/
def resume (more : Bytes) : LineInfo × Option ReadError → LineInfo × Option ReadError
  | (info, none) => info.add more
  | (info, some cause) => (info, some cause)

/-- A walk takes over what a header announces, as far as it is there, and goes on behind the
padding. -/
theorem add_header {kind length : Nat} (known : kind < limit 4) (short : length < limit 4)
    (info : LineInfo) (rest : Bytes) :
    info.add (encode 4 kind ++ (encode 4 length ++ rest)) =
      resume (rest.drop (paddedSize length)) (info.takeOver kind (rest.take length)) := by
  have first : (encode 4 kind ++ (encode 4 length ++ rest)).take 4 = encode 4 kind :=
    List.take_left' (length_encode ..)
  have second : ((encode 4 kind ++ (encode 4 length ++ rest)).drop 4).take 4 =
      encode 4 length := by
    rw [List.drop_left' (length_encode ..), List.take_left' (length_encode ..)]
  have opened : ∃ last, (encode 4 kind ++ (encode 4 length ++ rest)).drop (headerSize - 1) =
      last :: rest := ⟨_, rfl⟩
  obtain ⟨last, opened⟩ := opened
  rw [add, takeOver]
  split
  · rename_i nothing
    rw [opened] at nothing
    cases nothing
  · rename_i byte behind here
    rw [opened] at here
    cases here
    simp only [first, second, decode_encode known, decode_encode short]
    cases info.addSubsection kind (rest.take length) <;> rfl

/-- A walk goes on behind the padding of a complete subsection. -/
theorem add_padded {kind : Nat} {padding : Bytes} (known : kind < limit 4)
    (short : body.length < limit 4)
    (padded : body.length + padding.length = paddedSize body.length) (info : LineInfo)
    (rest : Bytes) :
    info.add (writeSubsection kind body ++ padding ++ rest) =
      resume rest (info.takeOver kind body) := by
  have whole : writeSubsection kind body ++ padding ++ rest =
      encode 4 kind ++ (encode 4 body.length ++ (body ++ (padding ++ rest))) := by
    simp only [writeSubsection, List.append_assoc]
  have behind : (body ++ (padding ++ rest)).drop (paddedSize body.length) = rest := by
    rw [← List.append_assoc, List.drop_left' (by rw [List.length_append, padded])]
  rw [whole, add_header known short, List.take_left, behind]

/-- A walk ends where no further subsection is opened. -/
theorem add_of_few (info : LineInfo) {bytes : Bytes} (few : bytes.length < headerSize) :
    info.add bytes = (info, none) := by
  have nothing : bytes.drop (headerSize - 1) = [] :=
    List.drop_eq_nil_of_le (Nat.le_sub_one_of_lt few)
  rw [add]
  split
  · rfl
  · rename_i byte behind here
    rw [nothing] at here
    cases here

def withLines (entries : List LineEntry) (info : LineInfo) : LineInfo :=
  { info with lines := info.lines ++ entries }

def withChecksums (newer : Checksums) (info : LineInfo) : LineInfo :=
  { info with checksums := info.checksums.overlay newer }

theorem withLines_nil : withLines [] = id := by
  funext info
  rw [withLines, List.append_nil]
  rfl

theorem withLines_comp (first second : List LineEntry) :
    withLines second ∘ withLines first = withLines (first ++ second) := by
  funext info
  simp only [Function.comp_apply, withLines, List.append_assoc]

/-- A walk takes the bytes over as the function says and goes on behind them. -/
def Takes (bytes : Bytes) (f : LineInfo → LineInfo) : Prop :=
  ∀ info rest, add info (bytes ++ rest) = add (f info) rest

namespace Takes

theorem nil : Takes [] id := fun _ _ => rfl

/-- Where nothing follows, a walk ends well. -/
theorem whole (h : Takes a f) (info : LineInfo) : info.add a = (f info, none) := by
  have few : ([] : Bytes).length < headerSize := by decide
  have taken := h info []
  rwa [List.append_nil, add_of_few (f info) few] at taken

theorem append (ha : Takes a f) (hb : Takes b g) : Takes (a ++ b) (g ∘ f) := by
  intro info rest
  rw [List.append_assoc, ha, hb]
  rfl

theorem subsection {kind : Nat} {padding : Bytes} (known : kind < limit 4)
    (short : body.length < limit 4)
    (padded : body.length + padding.length = paddedSize body.length)
    (h : ∀ info, addSubsection info kind body = .ok (f info)) :
    Takes (writeSubsection kind body ++ padding) f := by
  intro info rest
  rw [add_padded known short padded, takeOver, h info]
  rfl

theorem checksums {table : Bytes} (short : table.length < limit 4) (whole : 4 ∣ table.length) :
    Takes (writeSubsection checksumKind table) (withChecksums (Checksums.parse table)) := by
  rw [← List.append_nil (writeSubsection checksumKind table)]
  exact subsection (by decide) short (paddedSize_of_dvd whole).symm fun _ => if_pos rfl

theorem lines {table : Bytes} {entries : List LineEntry} (short : table.length < limit 4)
    (whole : 4 ∣ table.length) (parsed : LineEntry.parse table = .ok entries) :
    Takes (writeSubsection lineKind table) (withLines entries) := by
  rw [← List.append_nil (writeSubsection lineKind table)]
  refine subsection (by decide) short (paddedSize_of_dvd whole).symm fun info => ?_
  rw [addSubsection, if_neg (by decide), if_pos rfl, parsed]
  rfl

theorem flatMap_lines {γ : Type} {items : List γ} {write : γ → Bytes}
    {entries : γ → List LineEntry}
    (h : ∀ item ∈ items, Takes (write item) (withLines (entries item))) :
    Takes (items.flatMap write) (withLines (items.flatMap entries)) := by
  induction items with
  | nil =>
      rw [List.flatMap_nil, List.flatMap_nil, withLines_nil]
      exact nil
  | cons item others ih =>
      have both := (h item List.mem_cons_self).append
        (ih fun other hm => h other (List.mem_cons_of_mem _ hm))
      rwa [withLines_comp] at both

end Takes

end LineInfo

end CodeView
end TestAtlas
