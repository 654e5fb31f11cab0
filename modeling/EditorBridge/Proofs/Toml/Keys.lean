import EditorBridge.Toml.Reader
import Mathlib.Data.List.Nodup

/-!
# Keys of a document

A key must not stand twice in a table, and a document that says otherwise is refused: whatever is
read, all its tables have each of their keys once, at any depth (`Document.unambiguous_parse?`).
Tables grow by changes to the entries they have so far, and every change that succeeds leaves all
keys distinct (`Entries.Keeps`); a value under construction holds no other tables than those.
-/
namespace EditorBridge.Toml

/-- A table in which no key stands twice. -/
def Table.Distinct (table : Table) : Prop := (table.map Prod.fst).Nodup

/-- In a table without a key that stands twice, a key has the value that stands by it. -/
theorem Table.Distinct.lookup_eq_some_iff {table : Table} (distinct : table.Distinct) {key : String}
    {value : Value} : table.lookup key = some value ↔ (key, value) ∈ table := by
  induction table with
  | nil => simp
  | cons entry rest ih =>
    obtain ⟨first, firstValue⟩ := entry
    obtain ⟨fresh, others⟩ := List.nodup_cons.mp distinct
    have later := ih others
    by_cases same : key = first
    · subst same
      have notLater : (key, value) ∉ rest := fun member => fresh (List.mem_map.mpr ⟨_, member, rfl⟩)
      simp [notLater, eq_comm]
    · have other : (key == first) = false := beq_eq_false_iff_ne.mpr same
      simp [List.lookup_cons, other, later, same]

theorem lookup_eq_none_iff {β : Type} {table : List (String × β)} {key : String} :
    table.lookup key = none ↔ ∀ value, (key, value) ∉ table := by
  induction table with
  | nil => simp
  | cons entry rest ih =>
    obtain ⟨first, firstValue⟩ := entry
    by_cases same : key = first
    · subst same
      exact iff_of_false (by simp) fun none => none firstValue List.mem_cons_self
    · have other : (key == first) = false := beq_eq_false_iff_ne.mpr same
      simp [List.lookup_cons, other, ih, same]

/-- A value in which no table, at any depth, has a key twice. -/
inductive Value.Unambiguous : Value → Prop where
  | string (text : String) : Unambiguous (.string text)
  | integer (value : Option Int) : Unambiguous (.integer value)
  | float (digits : Option Decimal) : Unambiguous (.float digits)
  | boolean (value : Bool) : Unambiguous (.boolean value)
  | dateTime : Unambiguous .dateTime
  | array (items : List Value) (all : ∀ item ∈ items, Unambiguous item) :
      Unambiguous (.array items)
  | table (entries : Table) (distinct : entries.Distinct)
      (all : ∀ key value, (key, value) ∈ entries → Unambiguous value) :
      Unambiguous (.table entries)

inductive Item.Unambiguous : Item → Prop where
  | value (value : Value) (clear : value.Unambiguous) : Unambiguous (.value value)
  | table (standing : Standing) (entries : Entries) (distinct : (entries.map Prod.fst).Nodup)
      (all : ∀ key item, (key, item) ∈ entries → Unambiguous item) :
      Unambiguous (.table standing entries)
  | tables (elements : List Entries)
      (distinct : ∀ entries ∈ elements, (entries.map Prod.fst).Nodup)
      (all : ∀ entries ∈ elements, ∀ key item, (key, item) ∈ entries → Unambiguous item) :
      Unambiguous (.tables elements)

/-- Entries in which no key stands twice, neither in them nor in a table below them. -/
structure Entries.Unambiguous (entries : Entries) : Prop where
  distinct : (entries.map Prod.fst).Nodup
  all : ∀ key item, (key, item) ∈ entries → item.Unambiguous

namespace Item

theorem finishEntries_eq_map (entries : Entries) :
    finishEntries entries = entries.map fun entry => (entry.1, entry.2.toValue) := by
  induction entries with
  | nil => rfl
  | cons entry rest ih => rw [finishEntries, ih, List.map_cons]

theorem finishTables_eq_map (elements : List Entries) :
    finishTables elements = elements.map fun entries => .table (finishEntries entries) := by
  induction elements with
  | nil => rfl
  | cons entries rest ih => rw [finishTables, ih, List.map_cons]

/-- Finished entries have the keys of the entries, and values in place of their items. -/
theorem unambiguous_finishEntries {entries : Entries} (distinct : (entries.map Prod.fst).Nodup)
    (all : ∀ key item, (key, item) ∈ entries → item.toValue.Unambiguous) :
    (Value.table (finishEntries entries)).Unambiguous := by
  rw [finishEntries_eq_map]
  refine .table _ ?_ fun key value member => ?_
  · rw [Table.Distinct, List.map_map]
    exact distinct
  · obtain ⟨⟨key', item⟩, among, same⟩ := List.mem_map.mp member
    obtain ⟨rfl, rfl⟩ := Prod.mk.inj same
    exact all key' item among

theorem Unambiguous.toValue {item : Item} (clear : item.Unambiguous) :
    item.toValue.Unambiguous := by
  induction clear with
  | value value clear => exact clear
  | table standing entries distinct all ih => exact unambiguous_finishEntries distinct ih
  | tables elements distinct all ih =>
    rw [Item.toValue, finishTables_eq_map]
    refine .array _ fun value member => ?_
    obtain ⟨entries, among, rfl⟩ := by simpa using member
    exact unambiguous_finishEntries (distinct entries among) (ih entries among)

end Item

namespace Entries

theorem mem_of_lookup {entries : Entries} {key : String} {item : Item}
    (found : entries.lookup key = some item) : (key, item) ∈ entries := by
  obtain ⟨front, back, rfl, _⟩ := List.lookup_eq_some_iff.mp found
  simp

theorem not_mem_of_lookup {entries : Entries} {key : String} (absent : entries.lookup key = none) :
    key ∉ entries.map Prod.fst := by
  intro member
  obtain ⟨⟨_, item⟩, among, rfl⟩ := List.mem_map.mp member
  exact lookup_eq_none_iff.mp absent item among

namespace Unambiguous

theorem nil : Unambiguous [] := ⟨List.nodup_nil, by simp⟩

theorem append {entries : Entries} (clear : entries.Unambiguous) {key : String}
    (absent : entries.lookup key = none) {item : Item} (added : item.Unambiguous) :
    Unambiguous (entries ++ [(key, item)]) := by
  refine ⟨?_, fun key' item' member => ?_⟩
  · rw [List.map_append, List.map_singleton, ← List.concat_eq_append]
    exact clear.distinct.concat (not_mem_of_lookup absent)
  · obtain before | last := List.mem_append.mp member
    · exact clear.all key' item' before
    · obtain ⟨rfl, rfl⟩ := by simpa using last
      exact added

theorem put {entries : Entries} (clear : entries.Unambiguous) (key : String) {item : Item}
    (given : item.Unambiguous) : (entries.put key item).Unambiguous := by
  unfold Entries.put
  by_cases present : (entries.lookup key).isSome = true
  · rw [if_pos present]
    refine ⟨?_, fun key' item' member => ?_⟩
    · have keys : (entries.map fun entry => if entry.1 = key then (key, item) else entry).map
          Prod.fst = entries.map Prod.fst := by
        rw [List.map_map]
        refine List.map_congr_left fun entry _ => ?_
        by_cases same : entry.1 = key <;> simp [same]
      rw [keys]
      exact clear.distinct
    · obtain ⟨⟨key'', item''⟩, among, same⟩ := List.mem_map.mp member
      split at same
      · obtain ⟨-, rfl⟩ := Prod.mk.inj same
        exact given
      · obtain ⟨-, rfl⟩ := Prod.mk.inj same
        exact clear.all _ _ among
  · rw [if_neg present]
    exact clear.append (Option.not_isSome_iff_eq_none.mp present) given

end Unambiguous

/-- A table that is complete holds no key twice if its entries do not. -/
theorem Unambiguous.toValue {entries : Entries} (clear : entries.Unambiguous) :
    (Item.table .named entries).toValue.Unambiguous :=
  (Item.Unambiguous.table .named entries clear.distinct clear.all).toValue

/-- A change after which no key stands twice if none did before. -/
def Keeps (change : Change) : Prop :=
  ∀ standing entries made, entries.Unambiguous → change standing entries = some made →
    made.Unambiguous

/-- A change below leaves alone what stands beside the path. -/
theorem keeps_descend (dotted : Bool) {change : Change} (keeps : Keeps change)
    (path : List String) : Keeps (descend dotted change path) := by
  induction path with
  | nil => exact keeps
  | cons key path ih =>
    intro standing entries made clear changed
    rw [descend] at changed
    split at changed
    · obtain ⟨below, grown, rfl⟩ := by simpa [Option.bind_eq_some_iff] using changed
      obtain ⟨distinct, all⟩ := ih _ _ _ .nil grown
      exact clear.put key (.table _ below distinct all)
    · rename_i standing' inner found
      cases clear.all key _ (mem_of_lookup found) with
      | table _ _ distinct all =>
        split at changed
        · cases changed
        · obtain ⟨below, grown, rfl⟩ := by simpa [Option.bind_eq_some_iff] using changed
          obtain ⟨distinct, all⟩ := ih _ _ _ ⟨distinct, all⟩ grown
          exact clear.put key (.table _ below distinct all)
    · rename_i last before found
      cases clear.all key _ (mem_of_lookup found) with
      | tables _ distinct all =>
        obtain ⟨below, grown, rfl⟩ := by simpa [Option.bind_eq_some_iff] using changed
        obtain ⟨distinctLast, distinctBefore⟩ := List.forall_mem_cons.mp distinct
        obtain ⟨allLast, allBefore⟩ := List.forall_mem_cons.mp all
        have grownClear := ih _ _ _ ⟨distinctLast, allLast⟩ grown
        exact clear.put key (.tables _
          (List.forall_mem_cons.mpr ⟨grownClear.distinct, distinctBefore⟩)
          (List.forall_mem_cons.mpr ⟨grownClear.all, allBefore⟩))
    · cases changed

theorem keeps_add (key : String) {value : Value} (given : value.Unambiguous) :
    Keeps fun _ entries => add key value entries := by
  intro standing entries made clear changed
  simp only [add] at changed
  split at changed
  · cases changed
  · rename_i absent
    obtain rfl := Option.some.inj changed
    exact clear.append (Option.not_isSome_iff_eq_none.mp absent) (.value value given)

theorem keeps_insert (path : List String) (key : String) {value : Value}
    (given : value.Unambiguous) : Keeps (insert path key value) := by
  unfold insert
  split
  · exact keeps_add key given
  · refine keeps_descend true (fun standing entries made clear changed => ?_) path
    split at changed
    · exact keeps_add key given standing entries made clear changed
    · cases changed

theorem keeps_nameTable (path : List String) (key : String) : Keeps (nameTable path key) := by
  refine keeps_descend false (fun standing entries made clear changed => ?_) path
  split at changed
  · rename_i absent
    obtain rfl := Option.some.inj changed
    exact clear.append absent (.table .named [] List.nodup_nil (by simp))
  · rename_i inner found
    obtain rfl := Option.some.inj changed
    cases clear.all key _ (mem_of_lookup found) with
    | table _ _ distinct all => exact clear.put key (.table .named inner distinct all)
  · cases changed

theorem keeps_nameElement (path : List String) (key : String) : Keeps (nameElement path key) := by
  refine keeps_descend false (fun standing entries made clear changed => ?_) path
  split at changed
  · rename_i absent
    obtain rfl := Option.some.inj changed
    exact clear.append absent (.tables [[]] (by simp) (by simp))
  · rename_i elements found
    obtain rfl := Option.some.inj changed
    cases clear.all key _ (mem_of_lookup found) with
    | tables _ distinct all =>
      exact clear.put key (.tables ([] :: elements)
        (List.forall_mem_cons.mpr ⟨List.nodup_nil, distinct⟩)
        (List.forall_mem_cons.mpr ⟨by simp, all⟩))
  · cases changed

end Entries

namespace Scalar

theorem unambiguous_number? {negative : Bool} {unsigned text : List Char} {value : Value}
    (isRead : number? negative unsigned text = some value) : value.Unambiguous := by
  unfold number? at isRead
  extract_lets rest at isRead
  by_cases fraction : (rest.any (".eE".toList.contains ·)) = true
  · rw [if_pos fraction] at isRead
    obtain ⟨_, _, read⟩ := Option.bind_eq_some_iff.mp isRead
    obtain ⟨digits, _, same⟩ := Option.bind_eq_some_iff.mp read
    obtain rfl := Option.some.inj same
    exact .float _
  · rw [if_neg fraction] at isRead
    obtain ⟨_, _, read⟩ := Option.bind_eq_some_iff.mp isRead
    obtain ⟨_, _, read⟩ := Option.bind_eq_some_iff.mp read
    obtain ⟨_, _, same⟩ := Option.bind_eq_some_iff.mp read
    obtain rfl := Option.some.inj same
    exact .integer _

theorem unambiguous_signed? {negative : Bool} {unsigned text : List Char} {value : Value}
    (isRead : signed? negative unsigned text = some value) : value.Unambiguous := by
  unfold signed? at isRead
  split at isRead
  · obtain rfl := Option.some.inj isRead
    exact .float _
  · obtain rfl := Option.some.inj isRead
    exact .float _
  · exact unambiguous_number? isRead

theorem unambiguous_prefixed? {base : Nat} {text : List Char} {value : Value}
    (isRead : prefixed? base text = some value) : value.Unambiguous := by
  unfold prefixed? at isRead
  split at isRead
  · obtain rfl := Option.some.inj isRead
    exact .integer _
  · cases isRead

/-- A word stands for a value that holds no table. -/
theorem unambiguous_decode? {word : List Char} {value : Value}
    (isRead : decode? word = some value) : value.Unambiguous := by
  unfold decode? at isRead
  split at isRead
  · obtain rfl := Option.some.inj isRead
    exact .boolean _
  · obtain rfl := Option.some.inj isRead
    exact .boolean _
  · exact unambiguous_signed? isRead
  · exact unambiguous_signed? isRead
  · exact unambiguous_prefixed? isRead
  · exact unambiguous_prefixed? isRead
  · exact unambiguous_prefixed? isRead
  · split at isRead
    · obtain rfl := Option.some.inj isRead
      exact .dateTime
    · exact unambiguous_signed? isRead

end Scalar

def Frame.Unambiguous : Frame → Prop
  | .array items => ∀ item ∈ items, item.Unambiguous
  | .table entries | .entry entries _ _ => entries.Unambiguous

/-- A state of the reader that has met no key twice in a table. -/
def Expected.Unambiguous : Expected → Prop
  | .value stack => ∀ frame ∈ stack, frame.Unambiguous
  | .item items stack =>
      (∀ item ∈ items, item.Unambiguous) ∧ ∀ frame ∈ stack, frame.Unambiguous
  | .key _ entries stack => entries.Unambiguous ∧ ∀ frame ∈ stack, frame.Unambiguous
  | .more frame stack => frame.Unambiguous ∧ ∀ frame ∈ stack, frame.Unambiguous
  | .nothing v => v.Unambiguous

namespace Expected

theorem unambiguous_complete {value : Value} (given : value.Unambiguous) {stack : List Frame}
    (clear : ∀ frame ∈ stack, frame.Unambiguous) {state : Expected}
    (completed : complete value stack = some state) : state.Unambiguous := by
  cases stack with
  | nil =>
    obtain rfl := Option.some.inj completed
    exact given
  | cons frame stack =>
    obtain ⟨inner, outer⟩ := List.forall_mem_cons.mp clear
    cases frame with
    | array items =>
      obtain rfl := Option.some.inj completed
      exact ⟨List.forall_mem_cons.mpr ⟨given, inner⟩, outer⟩
    | table entries => cases completed
    | entry entries path name =>
      obtain ⟨grown, inserted, rfl⟩ := by
        simpa [complete, Option.bind_eq_some_iff] using completed
      exact ⟨Entries.keeps_insert path name given .named entries grown inner inserted, outer⟩

theorem unambiguous_start {stack : List Frame} (clear : ∀ frame ∈ stack, frame.Unambiguous)
    {token : Token} {state : Expected} (started : start stack token = some state) :
    state.Unambiguous := by
  cases token with
  | quoted text severalLines => exact unambiguous_complete (.string _) clear started
  | word text =>
    obtain ⟨value, decoded, completed⟩ := Option.bind_eq_some_iff.mp started
    exact unambiguous_complete (Scalar.unambiguous_decode? decoded) clear completed
  | openBracket =>
    simp only [start] at started
    split at started
    · obtain rfl := Option.some.inj started
      exact ⟨by simp, clear⟩
    · cases started
  | openBrace =>
    simp only [start] at started
    split at started
    · obtain rfl := Option.some.inj started
      exact ⟨.nil, clear⟩
    · cases started
  | _ => cases started

theorem unambiguous_step_item {items : List Value} (given : ∀ item ∈ items, item.Unambiguous)
    {stack : List Frame} (outer : ∀ frame ∈ stack, frame.Unambiguous) {token : Token}
    {next : Expected} (stepped : (item items stack).step token = some next) :
    next.Unambiguous := by
  have opened : ∀ frame ∈ Frame.array items :: stack, frame.Unambiguous :=
    List.forall_mem_cons.mpr ⟨given, outer⟩
  cases token with
  | space | lineEnd =>
    obtain rfl := Option.some.inj stepped
    exact ⟨given, outer⟩
  | closeBracket => exact unambiguous_complete (.array _ (by simpa using given)) outer stepped
  | _ =>
    simp only [step] at stepped
    exact unambiguous_start opened stepped

/-- The tokens of a key are only collected, up to its equals sign. -/
theorem unambiguous_step_key {entries : Entries} (inner : entries.Unambiguous)
    {stack : List Frame} (outer : ∀ frame ∈ stack, frame.Unambiguous) {tokens : List Token}
    {token : Token} {next : Expected} (stepped : (key tokens entries stack).step token = some next) :
    next.Unambiguous := by
  cases token with
  | equals =>
    simp only [step, Option.bind_eq_bind] at stepped
    obtain ⟨name, _, same⟩ := Option.bind_eq_some_iff.mp stepped
    obtain rfl := Option.some.inj same
    exact List.forall_mem_cons.mpr ⟨inner, outer⟩
  | closeBrace =>
    cases tokens with
    | nil => exact unambiguous_complete inner.toValue outer stepped
    | cons first tokens =>
      obtain rfl := Option.some.inj stepped
      exact ⟨inner, outer⟩
  | _ =>
    cases tokens <;>
      · obtain rfl := Option.some.inj stepped
        exact ⟨inner, outer⟩

theorem unambiguous_step_more {frame : Frame} (inner : frame.Unambiguous)
    {stack : List Frame} (outer : ∀ frame ∈ stack, frame.Unambiguous) {token : Token}
    {next : Expected} (stepped : (more frame stack).step token = some next) :
    next.Unambiguous := by
  cases frame with
  | array items =>
    have given : ∀ item ∈ items, item.Unambiguous := inner
    cases token with
    | space | lineEnd | comma =>
      obtain rfl := Option.some.inj stepped
      exact ⟨inner, outer⟩
    | closeBracket => exact unambiguous_complete (.array _ (by simpa using given)) outer stepped
    | _ => cases stepped
  | table entries =>
    cases token with
    | space | lineEnd | comma =>
      obtain rfl := Option.some.inj stepped
      exact ⟨inner, outer⟩
    | closeBrace => exact unambiguous_complete (Entries.Unambiguous.toValue inner) outer stepped
    | _ => cases stepped
  | entry entries path name =>
    cases token with
    | space =>
      obtain rfl := Option.some.inj stepped
      exact ⟨inner, outer⟩
    | _ => cases stepped

/-- No token makes a key stand twice: a value that would is refused where it is complete. -/
theorem unambiguous_step {state : Expected} (clear : state.Unambiguous) {token : Token}
    {next : Expected} (stepped : state.step token = some next) : next.Unambiguous := by
  cases state with
  | value stack =>
    cases token with
    | space =>
      obtain rfl := Option.some.inj stepped
      exact clear
    | _ =>
      simp only [step] at stepped
      exact unambiguous_start clear stepped
  | item items stack => exact unambiguous_step_item clear.1 clear.2 stepped
  | key tokens entries stack => exact unambiguous_step_key clear.1 clear.2 stepped
  | more frame stack => exact unambiguous_step_more clear.1 clear.2 stepped
  | nothing v =>
    cases token with
    | space =>
      obtain rfl := Option.some.inj stepped
      exact clear
    | _ => cases stepped

end Expected

theorem foldlM_preserves {σ α : Type} {holds : σ → Prop} {step : σ → α → Option σ}
    (keeps : ∀ state item next, holds state → step state item = some next → holds next)
    {items : List α} {state final : σ} (start : holds state)
    (run : items.foldlM step state = some final) : holds final := by
  induction items generalizing state with
  | nil =>
    obtain rfl := Option.some.inj run
    exact start
  | cons item items ih =>
    obtain ⟨next, stepped, rest⟩ := Option.bind_eq_some_iff.mp (List.foldlM_cons.symm.trans run)
    exact ih (keeps state item next start stepped) rest

theorem Value.unambiguous_ofTokens? {tokens : List Token} {value : Value}
    (isRead : ofTokens? tokens = some value) : value.Unambiguous := by
  obtain ⟨state, run, last⟩ := Option.bind_eq_some_iff.mp isRead
  have clear : state.Unambiguous :=
    foldlM_preserves (fun _ _ _ clear stepped => Expected.unambiguous_step clear stepped)
      (by simp [Expected.Unambiguous]) run
  split at last
  · obtain rfl := Option.some.inj last
    exact clear
  · cases last

namespace Document

theorem unambiguous_header {document : Document} (clear : document.entries.Unambiguous)
    {element : Bool} {tokens : List Token} {next : Document}
    (named : header document element tokens = some next) : next.entries.Unambiguous := by
  obtain ⟨name, _, named⟩ := Option.bind_eq_some_iff.mp named
  obtain ⟨entries, grown, same⟩ := Option.bind_eq_some_iff.mp named
  obtain rfl := Option.some.inj same
  cases element with
  | false => exact Entries.keeps_nameTable _ _ _ _ _ clear grown
  | true => exact Entries.keeps_nameElement _ _ _ _ _ clear grown

theorem unambiguous_assign {document : Document} (clear : document.entries.Unambiguous)
    {key value : List Token} {next : Document}
    (assigned : assign document key value = some next) : next.entries.Unambiguous := by
  obtain ⟨name, _, assigned⟩ := Option.bind_eq_some_iff.mp assigned
  obtain ⟨given, isRead, assigned⟩ := Option.bind_eq_some_iff.mp assigned
  obtain ⟨entries, grown, same⟩ := Option.bind_eq_some_iff.mp assigned
  obtain rfl := Option.some.inj same
  have keeps := Entries.keeps_insert name.1 name.2 (Value.unambiguous_ofTokens? isRead)
  exact Entries.keeps_descend false keeps _ _ _ _ clear grown

theorem unambiguous_step {document : Document} (clear : document.entries.Unambiguous)
    {statement : List Token} {next : Document} (stepped : step document statement = some next) :
    next.entries.Unambiguous := by
  unfold step at stepped
  split at stepped
  · obtain rfl := Option.some.inj stepped
    exact clear
  · split at stepped
    · exact unambiguous_header clear stepped
    · cases stepped
  · split at stepped
    · exact unambiguous_header clear stepped
    · cases stepped
  · split at stepped
    · exact unambiguous_assign clear stepped
    · cases stepped

/-- No table of a document that is read has a key twice. -/
theorem unambiguous_parse? {text : String} {document : Table}
    (isRead : parse? text = some document) : (Value.table document).Unambiguous := by
  obtain ⟨tokens, _, isRead⟩ := Option.bind_eq_some_iff.mp isRead
  obtain ⟨last, run, same⟩ := Option.bind_eq_some_iff.mp isRead
  obtain rfl := Option.some.inj same
  have clear : last.entries.Unambiguous :=
    foldlM_preserves (fun _ _ _ clear stepped => unambiguous_step clear stepped) .nil run
  exact clear.toValue

end Document

end EditorBridge.Toml
