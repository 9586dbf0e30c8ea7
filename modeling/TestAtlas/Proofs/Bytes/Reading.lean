import TestAtlas.Bytes.Reader

/-!
What readers take off the front of a byte string that was written for them. The
laws leave open what follows, so those of a record compose from those of its
fields.
-/

namespace TestAtlas

theorem paddedSize_of_dvd {n : Nat} (h : 4 ∣ n) : paddedSize n = n := by
  rw [paddedSize]
  omega

/-- A stretch that is as long as bytes that lie in the file at its start begins with them. -/
theorem slice_of_begins {file : Array UInt8} {data : Bytes} {offset count : Nat}
    (h : data <+: file.toList.drop offset) (length : data.length = count) :
    slice file offset count = data := by
  obtain ⟨rest, split⟩ := h
  rw [slice_eq_take_drop, ← split, ← length, List.take_left]

namespace Reader

open LittleEndian

variable {α β γ : Type}

/-- The reader takes exactly these bytes, whatever follows, and gives the value. -/
def Reads (reader : Reader α) (value : α) (bytes : Bytes) : Prop :=
  ∀ rest, reader.run (bytes ++ rest) = .ok (value, rest)

namespace Reads

theorem pure (value : α) : Reads (pure value) value [] := fun _ => rfl

theorem bind {reader : Reader α} {next : α → Reader β} {a : α} {b : β} {first second : Bytes}
    (ha : Reads reader a first) (hb : Reads (next a) b second) :
    Reads (reader >>= next) b (first ++ second) := by
  intro rest
  rw [StateT.run_bind, List.append_assoc, ha (second ++ rest)]
  exact hb rest

theorem map {reader : Reader α} {value : α} {bytes : Bytes} (f : α → β)
    (h : Reads reader value bytes) : Reads (f <$> reader) (f value) bytes := by
  intro rest
  rw [StateT.run_map, h rest]
  rfl

/-- A value made from what was read needs no bytes of its own. -/
theorem bind_pure {reader : Reader α} {next : α → Reader β} {a : α} {b : β} {bytes : Bytes}
    (ha : Reads reader a bytes) (hb : next a = Pure.pure b) :
    Reads (reader >>= next) b bytes := by
  have both : Reads (reader >>= next) b (bytes ++ []) := ha.bind (hb ▸ Reads.pure b)
  rwa [List.append_nil] at both

theorem chunk {count : Nat} {bytes : Bytes} (h : bytes.length = count)
    (error : Nat → ReadError) : Reads (chunk count error) bytes bytes := by
  intro rest
  subst h
  change (if _ then _ else _) = _
  rw [List.take_left, List.drop_left, if_neg (Nat.lt_irrefl _)]

theorem fixed {count : Nat} {bytes : Bytes} (h : bytes.length = count) :
    Reads (fixed count) bytes bytes := chunk h _

theorem skip {count : Nat} {bytes : Bytes} (h : bytes.length = count) :
    Reads (skip count) () bytes := bind_pure (fixed h) rfl

theorem field {width n : Nat} (h : n < limit width) : Reads (field width) n (encode width n) := by
  have read := (fixed (length_encode width n)).map decode
  rwa [decode_encode h] at read

theorem lone {width n : Nat} (h : n < limit width) : Reads (lone width) n (encode width n) := by
  have read := (chunk (length_encode width n) (ReadError.short · width)).map decode
  rwa [decode_encode h] at read

end Reads

theorem words_encode_append {n : Nat} (h : n < limit 4) (rest : Bytes) :
    words (encode 4 n ++ rest) = n :: words rest := by
  change decode (encode 4 n) :: words rest = _
  rw [decode_encode h]

theorem words_flatMap_encode {values : List Nat} (h : ∀ n ∈ values, n < limit 4) :
    words (values.flatMap (encode 4)) = values := by
  induction values with
  | nil => rfl
  | cons n rest ih =>
      rw [List.flatMap_cons, words_encode_append (h n List.mem_cons_self),
        ih fun m hm => h m (List.mem_cons_of_mem n hm)]

@[simp] theorem length_flatMap_encode (width : Nat) (values : List Nat) :
    (values.flatMap (encode width)).length = width * values.length := by
  induction values with
  | nil => rfl
  | cons n rest ih =>
      rw [List.flatMap_cons, List.length_append, length_encode, ih, List.length_cons,
        Nat.mul_succ, Nat.add_comm]

theorem passes_of_absent {bytes : Bytes} (absent : 0 ∉ bytes) :
    ∀ b ∈ bytes, (b != 0) = true := by
  intro b member
  rw [bne_iff_ne]
  rintro rfl
  exact absent member

namespace Reads

theorem array {values : List Nat} (h : ∀ n ∈ values, n < limit 4) :
    Reads (array values.length) values (values.flatMap (encode 4)) := by
  have read := (chunk (length_flatMap_encode 4 values)
    (ReadError.short · (4 * values.length))).map words
  rwa [words_flatMap_encode h] at read

theorem terminated {bytes : Bytes} (h : 0 ∉ bytes) : Reads terminated bytes (bytes ++ [0]) := by
  intro rest
  have all := passes_of_absent h
  have dropped : (bytes ++ [0] ++ rest).dropWhile (· != 0) = 0 :: rest := by
    rw [List.append_assoc, List.dropWhile_append_of_pos all]
    rfl
  have taken : (bytes ++ [0] ++ rest).takeWhile (· != 0) = bytes := by
    rw [List.append_assoc, List.takeWhile_append_of_pos all]
    exact List.append_nil bytes
  simp only [StateT.run, Reader.terminated, dropped, taken]

theorem upTo {count : Nat} {bytes : Bytes} (h : bytes.length = count) :
    Reads (upTo count) bytes bytes := by
  intro rest
  subst h
  simp only [StateT.run, Reader.upTo, List.take_left, List.drop_left]

/-- Records of one kind, one after the other. -/
theorem mapM {read : α → Reader β} {items : List γ} {key : γ → α} {value : γ → β}
    {write : γ → Bytes} (h : ∀ item ∈ items, Reads (read (key item)) (value item) (write item)) :
    Reads ((items.map key).mapM read) (items.map value) (items.flatMap write) := by
  induction items with
  | nil => exact pure []
  | cons item rest ih =>
      rw [List.map_cons, List.mapM_cons]
      exact (h item List.mem_cons_self).bind
        (bind_pure (ih fun other hm => h other (List.mem_cons_of_mem item hm)) rfl)

end Reads

theorem of_run_bind {reader : Reader α} {next : α → Reader β} {bytes rest : Bytes} {value : β}
    (read : (reader >>= next).run bytes = .ok (value, rest)) :
    ∃ a middle, reader.run bytes = .ok (a, middle) ∧ (next a).run middle = .ok (value, rest) := by
  rw [StateT.run_bind] at read
  cases first : reader.run bytes with
  | error cause =>
      rw [first] at read
      cases read
  | ok result =>
      rw [first] at read
      exact ⟨result.1, result.2, rfl, read⟩

theorem of_run_chunk {count : Nat} {error : Nat → ReadError} {bytes value rest : Bytes}
    (read : (chunk count error).run bytes = .ok (value, rest)) :
    count ≤ bytes.length ∧ value = bytes.take count ∧ rest = bytes.drop count := by
  change (if _ then _ else _) = _ at read
  split at read
  · cases read
  · rename_i enough
    cases read
    rw [List.length_take] at enough
    exact ⟨by omega, rfl, rfl⟩

/-- A number, in a record or on its own, is spelled by the bytes in front. -/
theorem of_run_number {width value : Nat} {error : Nat → ReadError} {bytes rest : Bytes}
    (read : (decode <$> chunk width error).run bytes = .ok (value, rest)) :
    value = decode (bytes.take width) ∧ rest = bytes.drop width := by
  rw [← bind_pure_comp] at read
  obtain ⟨taken, middle, read, last⟩ := of_run_bind read
  cases last
  obtain ⟨-, rfl, rfl⟩ := of_run_chunk read
  exact ⟨rfl, rfl⟩

theorem of_run_terminated {bytes value rest : Bytes}
    (read : terminated.run bytes = .ok (value, rest)) :
    value = bytes.takeWhile (· != 0) ∧ bytes = value ++ [0] ++ rest ∧ 0 ∉ value := by
  have split := List.takeWhile_append_dropWhile (p := (· != (0 : UInt8))) (l := bytes)
  have stopped := List.head?_dropWhile_not (· != (0 : UInt8)) bytes
  simp only [StateT.run, terminated] at read
  cases behind : bytes.dropWhile (· != 0) with
  | nil =>
      rw [behind] at read
      cases read
  | cons last others =>
      rw [behind] at read split stopped
      cases read
      obtain rfl : last = 0 := by simpa using stopped
      refine ⟨rfl, ?_, fun inside => ?_⟩
      · rw [List.append_assoc]
        exact split.symm
      · have passed := List.all_eq_true.mp List.all_takeWhile _ inside
        exact absurd rfl (bne_iff_ne.mp passed)

/-- Without a zero byte there is no terminated string. -/
theorem run_terminated_of_absent {bytes : Bytes} (absent : 0 ∉ bytes) :
    terminated.run bytes = .error (.short 0 1) := by
  have dropped : (bytes ++ []).dropWhile (· != 0) = [] :=
    List.dropWhile_append_of_pos (passes_of_absent absent)
  rw [List.append_nil] at dropped
  simp only [StateT.run, terminated, dropped]

/-- The reader takes exactly this many bytes whenever it gives a value. -/
def Takes (reader : Reader α) (count : Nat) : Prop :=
  ∀ bytes value rest, reader.run bytes = .ok (value, rest) → bytes.length = count + rest.length

namespace Takes

theorem pure (value : α) : Takes (pure value) 0 := by
  intro bytes value rest taken
  cases taken
  exact (Nat.zero_add _).symm

theorem bind {reader : Reader α} {next : α → Reader β} {first second : Nat}
    (h : Takes reader first) (h' : ∀ a, Takes (next a) second) :
    Takes (reader >>= next) (first + second) := by
  intro bytes value rest taken
  obtain ⟨a, middle, front, behind⟩ := of_run_bind taken
  rw [h _ _ _ front, h' a _ _ _ behind, Nat.add_assoc]

theorem chunk (count : Nat) (error : Nat → ReadError) : Takes (chunk count error) count := by
  intro bytes value rest taken
  obtain ⟨room, -, rfl⟩ := of_run_chunk taken
  rw [List.length_drop, Nat.add_sub_cancel' room]

theorem skip (count : Nat) : Takes (skip count) count :=
  bind (chunk count _) fun _ => pure ()

theorem field (width : Nat) : Takes (field width) width := by
  rw [Reader.field, ← bind_pure_comp]
  exact bind (chunk width _) fun _ => pure _

end Takes

/-- The reader fails only as the fixed part of a record does when the bytes run out. -/
def CutsOff (reader : Reader α) : Prop :=
  ∀ bytes cause, reader.run bytes = .error cause → cause = .record

namespace CutsOff

theorem pure (value : α) : CutsOff (pure value) := nofun

theorem bind {reader : Reader α} {next : α → Reader β} (h : CutsOff reader)
    (h' : ∀ a, CutsOff (next a)) : CutsOff (reader >>= next) := by
  intro bytes cause failed
  rw [StateT.run_bind] at failed
  cases first : reader.run bytes with
  | error e =>
      rw [first] at failed
      cases failed
      exact h _ _ first
  | ok result =>
      rw [first] at failed
      exact h' _ _ _ failed

theorem fixed (count : Nat) : CutsOff (fixed count) := by
  intro bytes cause failed
  change (if _ then _ else _) = _ at failed
  split at failed <;> cases failed
  rfl

theorem skip (count : Nat) : CutsOff (skip count) := bind (fixed count) fun _ => pure ()

theorem field (width : Nat) : CutsOff (field width) := by
  rw [Reader.field, ← bind_pure_comp]
  exact bind (fixed width) fun _ => pure _

end CutsOff

/-- A record that does not fit in is not read. -/
theorem run_of_few {reader : Reader α} {count : Nat} (takes : Takes reader count)
    (cutsOff : CutsOff reader) {bytes : Bytes} (few : bytes.length < count) :
    reader.run bytes = .error .record := by
  cases read : reader.run bytes with
  | error cause => rw [cutsOff _ _ read]
  | ok result =>
      have length := takes _ _ _ read
      omega

/-- Whatever the reader gives has the property. -/
def Yields (reader : Reader α) (property : α → Prop) : Prop :=
  ∀ bytes value rest, reader.run bytes = .ok (value, rest) → property value

namespace Yields

variable {property : α → Prop} {target : β → Prop}

theorem any (reader : Reader α) : Yields reader fun _ => True := fun _ _ _ _ => trivial

theorem pure {value : α} (h : property value) : Yields (pure value) property := by
  intro bytes other rest read
  cases read
  exact h

theorem bind {reader : Reader α} {next : α → Reader β} (h : Yields reader property)
    (h' : ∀ a, property a → Yields (next a) target) : Yields (reader >>= next) target := by
  intro bytes value rest read
  obtain ⟨a, middle, front, behind⟩ := of_run_bind read
  exact h' a (h _ _ _ front) _ _ _ behind

theorem mapM {read : α → Reader β} (h : ∀ a, Yields (read a) target) (items : List α) :
    Yields (items.mapM read) fun values => ∀ value ∈ values, target value := by
  induction items with
  | nil => exact pure (List.forall_mem_nil _)
  | cons item rest ih =>
      rw [List.mapM_cons]
      refine (h item).bind fun value good => ih.bind fun values others => pure ?_
      exact List.forall_mem_cons.mpr ⟨good, others⟩

theorem chunk (count : Nat) (error : Nat → ReadError) :
    Yields (chunk count error) fun bytes => bytes.length = count := by
  intro bytes value rest read
  obtain ⟨room, rfl, -⟩ := of_run_chunk read
  exact List.length_take_of_le room

end Yields

/-- The reader takes exactly this many bytes, and what it gives depends on nothing else. -/
def Spans (reader : Reader α) (count : Nat) : Prop :=
  ∀ bytes value rest, reader.run bytes = .ok (value, rest) →
    count ≤ bytes.length ∧ rest = bytes.drop count ∧ Reads reader value (bytes.take count)

namespace Spans

theorem pure (value : α) : Spans (pure value) 0 := by
  intro bytes other rest read
  cases read
  exact ⟨Nat.zero_le _, rfl, .pure value⟩

theorem bind {reader : Reader α} {next : α → Reader β} {first second : Nat}
    (h : Spans reader first) (h' : ∀ a, Spans (next a) second) :
    Spans (reader >>= next) (first + second) := by
  intro bytes value rest read
  obtain ⟨a, middle, front, behind⟩ := of_run_bind read
  obtain ⟨room, rfl, reads⟩ := h _ _ _ front
  obtain ⟨room', rfl, reads'⟩ := h' a _ _ _ behind
  rw [List.length_drop] at room'
  refine ⟨by omega, List.drop_drop .., ?_⟩
  rw [List.take_add]
  exact reads.bind reads'

theorem chunk (count : Nat) (error : Nat → ReadError) : Spans (chunk count error) count := by
  intro bytes value rest read
  obtain ⟨room, rfl, rfl⟩ := of_run_chunk read
  exact ⟨room, rfl, .chunk (List.length_take_of_le room) error⟩

theorem skip (count : Nat) : Spans (skip count) count :=
  bind (chunk count _) fun _ => pure ()

theorem field (width : Nat) : Spans (field width) width := by
  rw [Reader.field, ← bind_pure_comp]
  exact bind (chunk width _) fun _ => pure _

end Spans

theorem length_words (bytes : Bytes) : (words bytes).length = bytes.length / 4 := by
  fun_induction words bytes with
  | case1 a b c d rest ih =>
      simp only [List.length_cons, ih]
      omega
  | case2 bytes few =>
      have short : bytes.length < 4 := by
        match bytes, few with
        | [], _ | [_], _ | [_, _], _ | [_, _, _], _ => simp
        | a :: b :: c :: d :: rest, few => exact absurd rfl (few a b c d rest)
      rw [Nat.div_eq_of_lt short]
      rfl

theorem Yields.array (count : Nat) :
    Yields (array count) fun values => values.length = count := by
  rw [Reader.array, ← bind_pure_comp]
  refine (chunk (4 * count) _).bind fun bytes length => pure ?_
  rw [length_words, length]
  omega

end Reader
end TestAtlas
