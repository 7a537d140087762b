import GrammarForm.Proofs.AcceptedIntegers
import GrammarForm.Proofs.Resubmission

/-!
# Sessions of a counter

The counter of a group travels through the form.  In each step of a session it is submitted together
with the controls that were pressed, a number of instances comes back, and this number is what is
submitted in the next step.

The first step starts from a text that may be anything.  It stands for a number if it is the numeral
of an integer of 64 bits, and for zero otherwise.  From there on the numbers of instances are those
of a counter that goes up by a plus and down by a minus and is kept between zero and its upper bound
once in each step, since a number within these bounds is read back as it was written.

## Main definitions

* `Press` : the controls that are pressed in a step.
* `submissions` : what is submitted in the steps of a session.
* `IsSubmittedCount` : the number that a submitted counter stands for.
* `Press.next`, `Press.Moves` : the counter after a press, and how it differs from the one before.

## Main results

* `instanceCount_pressing` : one step of a session.
* `cons_map_instanceCount_submissions` : all steps of a session.
* `isSubmittedCount_submittedCount` : what the first step starts from.
* `counter_of_submissions` : the counter of a whole session.
-/

namespace GrammarForm

/-! ### Steps -/

/-- The controls of a group that are pressed, each with the value that is submitted for it. -/
structure Press where
  plus : Option String := none
  minus : Option String := none

namespace Press

/-- The counter after a press: one more for the plus, one less for the minus, and kept between zero
and an upper bound. -/
def next (upper count : Int) (p : Press) : Int :=
  max 0 (min (count + (if p.plus.isSome then 1 else 0) - if p.minus.isSome then 1 else 0) upper)

/-- How a press moves a counter that is between zero and an upper bound: only a plus alone moves it
up, and only below the bound, only a minus alone moves it down, and only above zero, and it moves by
one if at all. -/
structure Moves (upper : Int) (p : Press) (before after : Int) : Prop where
  succ_iff : after = before + 1 ↔ p.plus.isSome = true ∧ p.minus = none ∧ before < upper
  pred_iff : after = before - 1 ↔ p.minus.isSome = true ∧ p.plus = none ∧ 0 < before
  near : after = before + 1 ∨ after = before - 1 ∨ after = before

variable {upper count : Int} (p : Press)

theorem next_bounds (hupper : 0 ≤ upper) : 0 ≤ p.next upper count ∧ p.next upper count ≤ upper := by
  rw [next]
  omega

/-- **How a press moves a counter.** -/
theorem moves_next (hlow : 0 ≤ count) (hhigh : count ≤ upper) :
    p.Moves upper count (p.next upper count) := by
  obtain ⟨plus, minus⟩ := p
  cases plus <;> cases minus <;> constructor <;>
    simp only [next, Option.isSome_none, Option.isSome_some, Bool.false_eq_true, if_true, if_false,
      reduceCtorEq, true_and, false_and, and_false, iff_false] <;>
    omega

end Press

/-- A state in which the given controls are pressed and no others. -/
def FormState.pressing (key : RepeatControl → String) (p : Press) (state : FormState) :
    FormState :=
  let released := Entries.without [key .plus, key .minus] state
  let state := p.plus.elim released fun v => Entries.insert (key .plus) v released
  p.minus.elim state fun v => Entries.insert (key .minus) v state

namespace FormState

variable {key : RepeatControl → String} (hkey : Function.Injective key) (p : Press)
  (state : FormState)

include hkey

/-- Pressing controls leaves the counter. -/
theorem get?_count_pressing :
    (state.pressing key p).get? (key .count) = state.get? (key .count) := by
  have hplus : key .count ≠ key .plus := fun h => nomatch hkey h
  have hminus : key .count ≠ key .minus := fun h => nomatch hkey h
  have hreleased : (Entries.without [key .plus, key .minus] state).get? (key .count) =
      state.get? (key .count) :=
    Entries.get?_without (by simp [hplus, hminus]) state
  obtain ⟨plus, minus⟩ := p
  cases plus <;> cases minus <;>
    simpa only [pressing, Option.elim, Entries.get?_insert, if_neg hplus, if_neg hminus]

theorem has_plus_pressing : (state.pressing key p).has (key .plus) = p.plus.isSome := by
  have hne : (key .plus == key .minus) = false := beq_eq_false_iff_ne.mpr fun h => nomatch hkey h
  have hreleased : (Entries.without [key .plus, key .minus] state).has (key .plus) = false :=
    Entries.has_without_of_mem (by simp) state
  obtain ⟨plus, minus⟩ := p
  cases plus <;> cases minus <;> simp [pressing, Entries.has_insert, hne, hreleased]

theorem has_minus_pressing : (state.pressing key p).has (key .minus) = p.minus.isSome := by
  have hne : (key .minus == key .plus) = false := beq_eq_false_iff_ne.mpr fun h => nomatch hkey h
  have hreleased : (Entries.without [key .plus, key .minus] state).has (key .minus) = false :=
    Entries.has_without_of_mem (by simp) state
  obtain ⟨plus, minus⟩ := p
  cases plus <;> cases minus <;> simp [pressing, Entries.has_insert, hne, hreleased]

end FormState

/-! ### Sessions -/

/-- The number that a submitted counter stands for: the one that it is the numeral of, if this fits
into 64 bits, and zero if it is no such numeral. -/
def IsSubmittedCount (submitted? : Option String) (count : Int) : Prop :=
  ((-2 ^ 63 ≤ count ∧ count ≤ 2 ^ 63 - 1) ∧ submitted? = some (toString count)) ∨
    count = 0 ∧ ∀ n : Int, -2 ^ 63 ≤ n ∧ n ≤ 2 ^ 63 - 1 → submitted? ≠ some (toString n)

theorem isSubmittedCount_submittedCount (submitted? : Option String) :
    IsSubmittedCount submitted? (submittedCount submitted?) := by
  by_cases h : ∃ n : Int, Decimal.fitsInt64 n = true ∧ submitted? = some (toString n)
  · obtain ⟨n, hn, rfl⟩ := h
    rw [submittedCount_toString hn]
    exact .inl ⟨Decimal.fitsInt64_iff.mp hn, rfl⟩
  · refine .inr ⟨?_, fun n hn heq => h ⟨n, Decimal.fitsInt64_iff.mpr hn, heq⟩⟩
    have hrefused : ¬ValueKind.integer.accepts (submitted?.getD "") = true := by
      intro haccepts
      obtain ⟨n, hn, hs⟩ := ValueKind.integer_accepts_iff.mp haccepts
      cases submitted? with
      | none => exact Decimal.toList_toString_ne_nil n (congrArg String.toList hs).symm
      | some s => exact h ⟨n, hn, congrArg some hs⟩
    exact if_neg hrefused

section Session

variable (digest : String → String) (command : String) (path : Path) (maximum cap : Int)

/-- What is submitted in the steps of a session: in each step some controls are pressed, and the
number of instances that comes back is the counter in the next one. -/
def submissions : FormState → List Press → List FormState
  | _, [] => []
  | state, p :: rest =>
    let submitted := state.pressing (controlKey digest command path) p
    let count := instanceCount digest submitted command path maximum cap
    submitted ::
      submissions (Entries.insert (controlKey digest command path .count) (toString count) submitted)
        rest

/-- **One step of a session**: the submitted counter is moved by the controls that are pressed. -/
theorem instanceCount_pressing (state : FormState) (p : Press) :
    instanceCount digest (state.pressing (controlKey digest command path) p) command path maximum
        cap =
      p.next (upperBound maximum cap)
        (submittedCount (state.get? (controlKey digest command path .count))) := by
  have hkey := controlKey_injective digest command path
  rw [instanceCount_of_controls (FormState.has_plus_pressing hkey p state)
    (FormState.has_minus_pressing hkey p state), FormState.get?_count_pressing hkey]
  rfl

variable {maximum cap}

/-- **All steps of a session**: the numbers of instances are those of a counter that is moved by one
press after the other. -/
theorem cons_map_instanceCount_submissions (hlow : 0 ≤ upperBound maximum cap)
    (hhigh : upperBound maximum cap ≤ 2 ^ 63 - 1) (presses : List Press) :
    ∀ initial : FormState,
      let start := submittedCount (initial.get? (controlKey digest command path .count))
      start :: (submissions digest command path maximum cap initial presses).map
          (instanceCount digest · command path maximum cap) =
        presses.scanl (Press.next (upperBound maximum cap)) start := by
  induction presses with
  | nil => exact fun _ => rfl
  | cons p rest ih =>
    intro initial start
    have hstep := instanceCount_pressing digest command path maximum cap initial p
    -- The number that comes back lies within the bounds, so it is read as it was written.
    have hbounds : 0 ≤ p.next (upperBound maximum cap) start ∧
        p.next (upperBound maximum cap) start ≤ upperBound maximum cap := p.next_bounds hlow
    have hfits : Decimal.fitsInt64 (p.next (upperBound maximum cap) start) = true :=
      Decimal.fitsInt64_iff.mpr (by omega)
    have hrest := ih (Entries.insert (controlKey digest command path .count)
      (toString (p.next (upperBound maximum cap) start))
      (initial.pressing (controlKey digest command path) p))
    rw [Entries.get?_insert, if_pos rfl, submittedCount_toString hfits] at hrest
    rw [List.scanl_cons, submissions, List.map_cons, hstep, hrest]

/-- **The counter of a whole session.**  For every text that the counter is submitted with at first
and all presses, the numbers of instances are those of a counter that starts from the number which
the text stands for, zero unless it is the numeral of an integer of 64 bits, and is moved by one
press after the other.  So they stay within the bounds, and from one step to the next they move by
one at most, up exactly for a plus below the upper bound, and down exactly for a minus above zero;
without a press, and with both, they stay. -/
theorem counter_of_submissions (hlow : 0 ≤ upperBound maximum cap)
    (hhigh : upperBound maximum cap ≤ 2 ^ 63 - 1) (initial : FormState) (presses : List Press) :
    let counts := (submissions digest command path maximum cap initial presses).map
      (instanceCount digest · command path maximum cap)
    (∃ start, IsSubmittedCount (initial.get? (controlKey digest command path .count)) start ∧
      start :: counts = presses.scanl (Press.next (upperBound maximum cap)) start) ∧
    (∀ count ∈ counts, 0 ≤ count ∧ count ≤ upperBound maximum cap) ∧
    ∀ (k : Nat) (p : Press) (before after : Int), presses[k + 1]? = some p →
      counts[k]? = some before → counts[k + 1]? = some after →
      p.Moves (upperBound maximum cap) before after := by
  intro counts
  have hcounts := cons_map_instanceCount_submissions digest command path hlow hhigh presses initial
  have hbounds : ∀ count ∈ counts, 0 ≤ count ∧ count ≤ upperBound maximum cap := by
    refine List.forall_mem_map.mpr fun state _ => ?_
    have hbound := instanceCount_bounds digest state command path maximum cap
    omega
  refine ⟨⟨_, isSubmittedCount_submittedCount _, hcounts⟩, hbounds, ?_⟩
  intro k p before after hp hbefore hafter
  -- The counter stands in front of the numbers of instances, so their indices are one more there.
  have hnext := List.getElem?_succ_scanl (b := submittedCount (initial.get?
    (controlKey digest command path .count))) (l := presses) (i := k + 1)
    (f := Press.next (upperBound maximum cap))
  rw [← hcounts, List.getElem?_cons_succ, List.getElem?_cons_succ, hafter, hbefore, hp,
    Option.bind_some, Option.map_some, Option.some.injEq] at hnext
  obtain ⟨hlow', hhigh'⟩ := hbounds before (List.mem_of_getElem? hbefore)
  rw [hnext]
  exact p.moves_next hlow' hhigh'

end Session

/-- A counter that is submitted above its bound of three. -/
def tooManySums : FormState :=
  [(controlKey id "total" [1] .count, "9")]

/-- Nothing is pressed at first, then the plus, the minus, both, and the minus again. -/
def sumPresses : List Press :=
  [{}, { plus := some "+" }, { minus := some "-" }, { plus := some "+", minus := some "-" },
    { minus := some "-" }]

theorem counter_of_submissions_tooManySums :
    let counts := (submissions id "total" [1] 3 1000 tooManySums sumPresses).map
      (instanceCount id · "total" [1] 3 1000)
    0 ≤ upperBound 3 1000 ∧ upperBound 3 1000 ≤ 2 ^ 63 - 1 ∧
      (∃ start, IsSubmittedCount (some "9") start ∧
        start :: counts = sumPresses.scanl (Press.next 3) start) ∧
      counts = [3, 3, 2, 2, 1] ∧ (∀ count ∈ counts, 0 ≤ count ∧ count ≤ 3) ∧
      Press.Moves 3 { minus := some "-" } 3 2 := by
  intro counts
  have hlow : 0 ≤ upperBound 3 1000 := by decide
  have hhigh : upperBound 3 1000 ≤ 2 ^ 63 - 1 := by decide
  have hcounts : counts = [3, 3, 2, 2, 1] := by decide
  obtain ⟨hscan, hbounds, hmoves⟩ :=
    counter_of_submissions id "total" [1] hlow hhigh tooManySums sumPresses
  have hminus := hmoves 1 { minus := some "-" } 3 2 rfl (congrArg (·[1]?) hcounts)
    (congrArg (·[2]?) hcounts)
  exact ⟨hlow, hhigh, hscan, hcounts, hbounds, hminus⟩

end GrammarForm
