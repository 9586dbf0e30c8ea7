import TestAtlas.Pdb.Module
import TestAtlas.Proofs.Pdb.Layout

/-!
Entries of the module list that are written one after the other. A walk over
them loads the module of each.
-/

namespace TestAtlas
namespace Pdb

open LittleEndian
open CodeView (Procedure LineInfo)

variable {container : Container}

namespace ModuleEntry

/-- The parts of an entry that are not looked at. -/
structure Unread where
  opened : Bytes
  contribution : Bytes
  flags : Bytes
  rest : Bytes
  length_opened : opened.length = 4
  length_contribution : contribution.length = 28
  length_flags : flags.length = 2
  length_rest : rest.length = 16

/-- An entry as it is written, without its padding. -/
def write (entry : ModuleEntry) (unread : Unread) : Bytes :=
  unread.opened ++ (unread.contribution ++ (unread.flags ++ (encode 2 entry.stream ++
    (encode 4 entry.symbolBytes ++ (encode 4 entry.skippedBytes ++ (encode 4 entry.lineBytes ++
      (unread.rest ++ (entry.name ++ [0] ++ (entry.objectName ++ [0])))))))))

/-- The numbers of an entry fit their fields and its names do not end early. -/
structure Fits (entry : ModuleEntry) : Prop where
  name : 0 ∉ entry.name
  objectName : 0 ∉ entry.objectName
  stream : entry.stream < limit 2
  symbolBytes : entry.symbolBytes < limit 4
  skippedBytes : entry.skippedBytes < limit 4
  lineBytes : entry.lineBytes < limit 4

theorem length_write (entry : ModuleEntry) (unread : Unread) :
    (entry.write unread).length =
      fixedSize + (entry.name.length + 1) + (entry.objectName.length + 1) := by
  simp only [write, List.length_append, length_encode, List.length_cons, List.length_nil,
    unread.length_opened, unread.length_contribution, unread.length_flags, unread.length_rest,
    fixedSize]
  omega

theorem reads_write {entry : ModuleEntry} (fits : entry.Fits) (unread : Unread) :
    Reader.Reads read entry (entry.write unread) :=
  .bind (.skip unread.length_opened) <| .bind (.skip unread.length_contribution) <|
    .bind (.skip unread.length_flags) <| .bind (.field fits.stream) <|
    .bind (.field fits.symbolBytes) <| .bind (.field fits.skippedBytes) <|
    .bind (.field fits.lineBytes) <| .bind (.skip unread.length_rest) <|
    .bind (.terminated fits.name) <| .bind_pure (.terminated fits.objectName) rfl

end ModuleEntry

namespace Module

variable {a b : Bytes} {ms others : List Module}

/-- A walk loads the module of the entry that it comes to and goes on behind the padding. -/
theorem walk_entry {entry : ModuleEntry} {padding : Bytes} (fits : entry.Fits)
    (unread : ModuleEntry.Unread)
    (padded : (entry.write unread ++ padding).length = entry.size) (found : List Module)
    (more : Nat) (rest : Bytes) :
    walk container found ((entry.write unread ++ padding).length + more)
        (entry.write unread ++ padding ++ rest) =
      entry.load container >>= fun module => walk container (module :: found) more rest := by
  have some : ¬ (entry.write unread ++ padding).length + more = 0 := by
    rw [List.length_append, ModuleEntry.length_write]
    omega
  have front : readFront ModuleEntry.read (entry.write unread ++ padding ++ rest) = .ok entry := by
    rw [List.append_assoc]
    exact readFront_of_reads (ModuleEntry.reads_write fits unread) _
  have behind : (entry.write unread ++ padding ++ rest).drop entry.size = rest :=
    List.drop_left' padded
  have left : (entry.write unread ++ padding).length + more - entry.size = more := by
    rw [padded, Nat.add_sub_cancel_left]
  rw [walk, if_neg some, front]
  simp only [bind, Except.bind, behind, left]

/-- A walk loads these modules from the bytes and goes on behind them. -/
def Lists (container : Container) (bytes : Bytes) (ms : List Module) : Prop :=
  ∀ found more rest, walk container found (bytes.length + more) (bytes ++ rest) =
    walk container (ms.reverse ++ found) more rest

namespace Lists

theorem nil (container : Container) : Lists container [] [] := by
  intro found more rest
  rw [List.length_nil, Nat.zero_add]
  rfl

theorem append (ha : Lists container a ms) (hb : Lists container b others) :
    Lists container (a ++ b) (ms ++ others) := by
  intro found more rest
  rw [List.length_append, Nat.add_assoc, List.append_assoc, ha, hb, List.reverse_append,
    List.append_assoc]

theorem flatMap {γ : Type} {items : List γ} {write : γ → Bytes} {module : γ → Module}
    (h : ∀ item ∈ items, Lists container (write item) [module item]) :
    Lists container (items.flatMap write) (items.map module) := by
  induction items with
  | nil => exact nil container
  | cons item rest ih =>
      exact (h item List.mem_cons_self).append
        (ih fun other hm => h other (List.mem_cons_of_mem _ hm))

theorem entry {entry : ModuleEntry} {module : Module} {padding : Bytes} (fits : entry.Fits)
    (unread : ModuleEntry.Unread)
    (padded : (entry.write unread ++ padding).length = entry.size)
    (loaded : entry.load container = .ok module) :
    Lists container (entry.write unread ++ padding) [module] := by
  intro found more rest
  rw [walk_entry fits unread padded, loaded]
  rfl

end Lists

/-- The module list of a container whose list stream opens with these parts, of which only the
size is looked at. -/
theorem all_of_opened {bytes first second rest : Bytes}
    (found : container.stream listStream =
      .ok (encode 4 0xFFFFFFFF ++ (first ++ (encode 4 bytes.length ++ second)) ++ (bytes ++ rest)))
    (h₁ : first.length = 20) (h₂ : second.length = 36) (short : bytes.length < limit 4 / 2) :
    all container = walk container [] bytes.length (bytes ++ rest) := by
  have number : bytes.length < limit 4 := Nat.lt_of_lt_of_le short (Nat.div_le_self ..)
  have header : Reader.Reads readListHeader (-1, (bytes.length : Int))
      (encode 4 0xFFFFFFFF ++ (first ++ (encode 4 bytes.length ++ second))) := by
    have size := (Reader.Reads.field number).map (signed 4)
    rw [signed, if_pos short] at size
    exact .bind ((Reader.Reads.field (by decide)).map (signed 4)) <| .bind (.skip h₁) <|
      .bind size <| .bind_pure (.skip h₂) rfl
  have length : (encode 4 0xFFFFFFFF ++ (first ++ (encode 4 bytes.length ++ second))).length =
      64 := by
    simp only [List.length_append, length_encode, h₁, h₂]
  rw [all, found]
  simp only [bind, Except.bind, readFront_of_reads header, ne_eq,
    not_true_eq_false, ↓reduceIte, Int.toNat_natCast, List.drop_left' length]

theorem all_of_lists {bytes first second rest : Bytes}
    (found : container.stream listStream =
      .ok (encode 4 0xFFFFFFFF ++ (first ++ (encode 4 bytes.length ++ second)) ++ (bytes ++ rest)))
    (h₁ : first.length = 20) (h₂ : second.length = 36) (short : bytes.length < limit 4 / 2)
    (h : Lists container bytes ms) : all container = .ok ms := by
  have walked := h [] 0 rest
  rw [Nat.add_zero] at walked
  rw [all_of_opened found h₁ h₂ short, walked, walk, if_pos rfl, List.append_nil,
    List.reverse_reverse]

end Module
end Pdb
end TestAtlas
