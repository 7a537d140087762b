import GrammarForm.Grammar.Alias
import Mathlib.Data.List.Induction
import Mathlib.Tactic.SplitIfs

/-!
# Texts as bytes and as numbers

Many names have to be compared when it is checked that a long list of records is in order.  It
takes long to decode a text or to compare it with another one, but its bytes are at hand, and from
them one number is made in which no text is confused with another.  Names are then compared as
numbers.

## Main definitions

* `Text.bytesOf`, `Text.number` : the bytes of a text, and the number that they make up.
* `numberChain` : the numbers of the names in a chain of aliases.

## Main results

* `Text.toList_eq_map_bytesOf` : the characters of a text whose bytes belong to ASCII.
* `Text.number_injective` : different texts have different numbers.
* `map_number_aliasChain` : a chain of aliases can be followed by numbers.
-/

namespace GrammarForm

namespace Text

/-- The bytes of a text. -/
def bytesOf (s : String) : List UInt8 :=
  s.toByteArray.data.toList

/-- A character whose bytes belong to ASCII is its only byte. -/
theorem utf8EncodeChar_of_ascii {c : Char}
    (h : ∀ b ∈ String.utf8EncodeChar c, b.toNat ≤ 127) :
    (String.utf8EncodeChar c).map (fun b => Char.ofNat b.toNat) = [c] := by
  have hlow : c.toNat ≤ 127 := by
    by_contra hhigh
    have hlast : (String.utf8EncodeChar c).getLast? = some (UInt8.ofNat (c.toNat % 64 + 128)) := by
      unfold String.utf8EncodeChar
      change (if c.toNat ≤ 127 then _ else _ : List UInt8).getLast? = _
      rw [if_neg hhigh]
      split_ifs <;> rfl
    have hbyte := h _ (List.mem_of_getLast? hlast)
    rw [UInt8.toNat_ofNat'] at hbyte
    omega
  have hown : String.utf8EncodeChar c = [UInt8.ofNat c.toNat] := by
    unfold String.utf8EncodeChar
    exact if_pos hlow
  rw [hown, List.map_singleton, UInt8.toNat_ofNat', Nat.mod_eq_of_lt (by omega), Char.ofNat_toNat]

/-- The characters of a text whose bytes belong to ASCII. -/
theorem toList_eq_map_bytesOf {s : String} (h : ∀ b ∈ bytesOf s, b.toNat ≤ 127) :
    s.toList = (bytesOf s).map fun b => Char.ofNat b.toNat := by
  have hbytes : bytesOf s = s.toList.flatMap String.utf8EncodeChar := by
    rw [bytesOf, ← String.utf8Encode_toList, List.utf8Encode]
    simp
  rw [hbytes] at h ⊢
  rw [List.map_flatMap]
  generalize s.toList = cs at h ⊢
  induction cs with
  | nil => rfl
  | cons c cs ih =>
    rw [List.flatMap_cons, List.forall_mem_append] at h
    rw [List.flatMap_cons, utf8EncodeChar_of_ascii h.1, ← ih h.2, List.singleton_append]

/-- The number that the bytes of a text make up, behind a leading one. -/
def number (s : String) : Nat :=
  (bytesOf s).foldl (fun n b => 256 * n + b.toNat) 1

theorem foldl_bytes_pos (bs : List UInt8) :
    0 < bs.foldl (fun n b => 256 * n + b.toNat) 1 := by
  induction bs using List.reverseRecOn with
  | nil => exact Nat.one_pos
  | append_singleton bs b ih =>
    rw [List.foldl_append, List.foldl_cons, List.foldl_nil]
    omega

/-- Bytes are read off the number that they make up, the last one first. -/
theorem eq_of_foldl_bytes_eq (bs : List UInt8) : ∀ cs : List UInt8,
    bs.foldl (fun n b => 256 * n + b.toNat) 1 = cs.foldl (fun n b => 256 * n + b.toNat) 1 →
      bs = cs := by
  induction bs using List.reverseRecOn with
  | nil =>
    intro cs h
    rcases List.eq_nil_or_concat cs with rfl | ⟨cs, c, rfl⟩
    · rfl
    · have hpos := foldl_bytes_pos cs
      rw [List.concat_eq_append, List.foldl_append, List.foldl_cons, List.foldl_nil,
        List.foldl_nil] at h
      omega
  | append_singleton bs b ih =>
    intro cs h
    rw [List.foldl_append, List.foldl_cons, List.foldl_nil] at h
    rcases List.eq_nil_or_concat cs with rfl | ⟨cs, c, rfl⟩
    · have hpos := foldl_bytes_pos bs
      rw [List.foldl_nil] at h
      omega
    · rw [List.concat_eq_append, List.foldl_append, List.foldl_cons, List.foldl_nil] at h
      have hb := b.toNat_lt
      have hc := c.toNat_lt
      have hlast : b.toNat = c.toNat := by omega
      rw [ih cs (by omega), UInt8.toNat_inj.mp hlast, List.concat_eq_append]

/-- **Different texts have different numbers.** -/
theorem number_injective : Function.Injective number := by
  intro s t h
  have hbytes : s.toByteArray.data.toList = t.toByteArray.data.toList :=
    eq_of_foldl_bytes_eq _ _ h
  exact String.toByteArray_inj.mp (ByteArray.ext (Array.toList_inj.mp hbytes))

end Text

/-! ### Chains of aliases -/

/-- The numbers of the names of some records, each with the number of the name it stands for. -/
def numberTable (records : List SymbolRecord) : List (Nat × Option Nat) :=
  records.map fun r => (Text.number r.name, r.aliasOf.map Text.number)

/-- The numbers met by following at most `n` entries of a table from a number. -/
def numberChain (table : List (Nat × Option Nat)) : Nat → Nat → List Nat
  | 0, k => [k]
  | n + 1, k =>
    match (table.lookup k).join with
    | none => [k]
    | some next => k :: numberChain table n next

theorem lookup_numberTable (records : List SymbolRecord) (name : String) :
    ((numberTable records).lookup (Text.number name)).join =
      (aliasTarget? records name).map Text.number := by
  rw [aliasTarget?, recordOf?, numberTable]
  induction records with
  | nil => rfl
  | cons r rest ih =>
    rw [List.map_cons, List.lookup_cons, List.find?_cons]
    by_cases hname : r.name = name
    · rw [hname, beq_self_eq_true, beq_self_eq_true]
      rfl
    · have hnumber : Text.number name ≠ Text.number r.name := fun h =>
        hname (Text.number_injective h).symm
      rw [beq_eq_false_iff_ne.mpr hnumber, beq_eq_false_iff_ne.mpr hname]
      exact ih

/-- **A chain of aliases can be followed by numbers.** -/
theorem map_number_aliasChain (records : List SymbolRecord) (n : Nat) :
    ∀ name, (aliasChain records n name).map Text.number =
      numberChain (numberTable records) n (Text.number name) := by
  induction n with
  | zero => exact fun _ => rfl
  | succ n ih =>
    intro name
    rw [aliasChain, numberChain, lookup_numberTable]
    cases aliasTarget? records name with
    | none => rfl
    | some next => exact congrArg (Text.number name :: ·) (ih next)

end GrammarForm
