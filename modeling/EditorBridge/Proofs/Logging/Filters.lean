import EditorBridge.Logging.Filter
import Mathlib.Data.List.Induction
import Mathlib.Data.Prod.Lex
import Mathlib.Data.String.Basic
import Mathlib.Order.WithBot

/-!
# Which directive decides

What a directive asks for has a place in a linear order (`Directive.demand`): the length of the
origin's name counts first, then the field.  Of the directives that concern a record the most
demanding one decides, and of equally demanding ones the last (`Filter.deciding?_eq_some_iff`).
When the environment asks for nothing, the records that are admitted are those up to one level,
wherever they come from (`Filter.admits_choose_none`).
-/
namespace EditorBridge.Logging

namespace Directive

/-- What a directive asks for, in the order of how much that is. -/
def demand (directive : Directive) : ℕ ×ₗ WithBot String :=
  toLex (directive.reach, directive.field)

theorem atLeast_iff {directive other : Directive} :
    directive.atLeast other = true ↔ other.demand ≤ directive.demand := by
  rw [demand, demand, Prod.Lex.toLex_le_toLex, atLeast]
  by_cases same : directive.reach = other.reach
  · simp only [same, ne_eq, not_true_eq_false, if_false, lt_irrefl, true_and, false_or]
    cases directive.field with
    | none =>
      cases other.field with
      | none => exact iff_of_true rfl le_rfl
      | some name' => exact iff_of_false Bool.false_ne_true (not_le.mpr (WithBot.bot_lt_coe name'))
    | some name =>
      cases other.field with
      | none => exact iff_of_true rfl bot_le
      | some name' =>
        rw [Bool.not_eq_true', decide_eq_false_iff_not, not_lt]
        exact WithBot.coe_le_coe.symm
  · simp [same, Ne.symm same]

end Directive

namespace Filter

variable {filter : Filter} {directive : Directive} {record : Record}

theorem deciding?_concat (filter : Filter) (last : Directive) (record : Record) :
    deciding? (filter ++ [last]) record =
      if last.concerns record && (filter.deciding? record).all last.atLeast then some last
      else filter.deciding? record := by
  rw [deciding?, List.foldl_append]
  rfl

theorem deciding?_eq_none_iff :
    filter.deciding? record = none ↔ ∀ directive ∈ filter, directive.concerns record = false := by
  induction filter using List.reverseRecOn with
  | nil => simp [deciding?]
  | append_singleton filter last ih =>
    rw [deciding?_concat, List.forall_mem_append, List.forall_mem_singleton]
    cases concerned : last.concerns record with
    | false => simp [ih]
    | true =>
      refine iff_of_false ?_ (by simp)
      cases deciding? filter record with
      | none => simp
      | some best => by_cases replaced : last.atLeast best = true <;> simp [replaced]

theorem exists_split_of_deciding? (decided : filter.deciding? record = some directive) :
    ∃ front back, filter = front ++ directive :: back ∧ directive.concerns record = true ∧
      (∀ other ∈ front, other.concerns record = true → other.demand ≤ directive.demand) ∧
      ∀ other ∈ back, other.concerns record = true → other.demand < directive.demand := by
  induction filter using List.reverseRecOn generalizing directive with
  | nil => cases decided
  | append_singleton filter last ih =>
    rw [deciding?_concat] at decided
    split at decided
    · rename_i replaced
      obtain ⟨concerned, greatest⟩ := Bool.and_eq_true_iff.mp replaced
      obtain rfl := Option.some.inj decided
      refine ⟨filter, [], rfl, concerned, fun other member concerned' => ?_, by simp⟩
      cases soFar : deciding? filter record with
      | none => simp [deciding?_eq_none_iff.mp soFar other member] at concerned'
      | some best =>
        rw [soFar] at greatest
        have most : best.demand ≤ last.demand := Directive.atLeast_iff.mp greatest
        obtain ⟨front, back, rfl, _, before, after⟩ := ih soFar
        obtain earlier | rfl | later := by simpa using member
        · exact (before other earlier concerned').trans most
        · exact most
        · exact (after other later concerned').le.trans most
    · rename_i kept
      obtain ⟨front, back, rfl, concerned, before, after⟩ := ih decided
      refine ⟨front, back ++ [last], by simp, concerned, before, fun other member concerned' => ?_⟩
      obtain earlier | same := List.mem_append.mp member
      · exact after other earlier concerned'
      · obtain rfl := List.mem_singleton.mp same
        rw [decided, concerned', Bool.true_and] at kept
        exact not_le.mp fun atLeast => kept (Directive.atLeast_iff.mpr atLeast)

theorem deciding?_of_split {front back : Filter} (concerned : directive.concerns record = true)
    (before : ∀ other ∈ front, other.concerns record = true → other.demand ≤ directive.demand)
    (after : ∀ other ∈ back, other.concerns record = true → other.demand < directive.demand) :
    deciding? (front ++ directive :: back) record = some directive := by
  induction back using List.reverseRecOn with
  | nil =>
    rw [deciding?_concat, concerned, Bool.true_and]
    cases soFar : deciding? front record with
    | none => rfl
    | some best =>
      obtain ⟨front', back', rfl, concerned', _⟩ := exists_split_of_deciding? soFar
      have most : directive.atLeast best = true :=
        Directive.atLeast_iff.mpr (before best (by simp) concerned')
      simp [most]
  | append_singleton back last ih =>
    obtain ⟨earlier, atLast⟩ := List.forall_mem_append.mp after
    have kept : (last.concerns record && last.atLeast directive) = false := by
      refine Bool.eq_false_iff.mpr fun replaced => ?_
      obtain ⟨concerned', atLeast⟩ := Bool.and_eq_true_iff.mp replaced
      exact absurd (Directive.atLeast_iff.mp atLeast)
        (not_le.mpr (atLast last (List.mem_singleton_self last) concerned'))
    rw [← List.cons_append, ← List.append_assoc, deciding?_concat, ih earlier]
    simp [kept]

/-- The directive that decides demands no less than those before it that concern the record, and
more than those after it. -/
theorem deciding?_eq_some_iff :
    filter.deciding? record = some directive ↔ ∃ front back,
      filter = front ++ directive :: back ∧ directive.concerns record = true ∧
      (∀ other ∈ front, other.concerns record = true → other.demand ≤ directive.demand) ∧
      ∀ other ∈ back, other.concerns record = true → other.demand < directive.demand := by
  constructor
  · exact exists_split_of_deciding?
  · rintro ⟨front, back, rfl, concerned, before, after⟩
    exact deciding?_of_split concerned before after

/-- The level up to which records are admitted when the environment asks for nothing. -/
def defaultLevel (verbose : Bool) : Level := if verbose then .debug else .info

/-- All records are the bridge's own, so the first directive of the default text decides. -/
theorem admits_choose_none (verbose : Bool) (record : Record) :
    (choose none verbose).admits record = true ↔
      record.level.rank ≤ (defaultLevel verbose).rank := by
  let own : Directive := ⟨some "dmypy_bridge", false, none, some (defaultLevel verbose)⟩
  obtain ⟨others, read⟩ : ∃ others, choose none verbose = [own, .all others] := by
    cases verbose
    · exact ⟨some .warn, by decide +kernel⟩
    · exact ⟨some .info, by decide +kernel⟩
  have named (origin : Origin) : "dmypy_bridge".toList.isPrefixOf origin.name.toList = true := by
    cases origin <;> decide +kernel
  have concerned : own.concerns record = true := by
    simp only [Directive.concerns, own, Option.all_some, Option.all_none, named]
    rfl
  have more : (Directive.all others).demand < own.demand :=
    Prod.Lex.toLex_lt_toLex.mpr (.inl (Nat.succ_pos _))
  have decided : deciding? ([] ++ own :: [.all others]) record = some own :=
    deciding?_of_split concerned (by simp) (by simp [more])
  rw [List.nil_append] at decided
  simp [read, admits, decided, own, Threshold.admits]

end Filter

end EditorBridge.Logging
