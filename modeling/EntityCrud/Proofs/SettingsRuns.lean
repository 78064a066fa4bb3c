import EntityCrud.Settings
import Mathlib.Data.List.Induction
/-! Runs of changes to the settings. Every field holds what the last change that writes it wrote, or its
default. A merge writes all fields of the options, out of the other settings as they are at that moment;
what becomes of those later does not reach the options. -/
namespace EntityCrud.Settings
open Sql (DialectName)

/-- One field of one of the three kinds of settings. -/
inductive Field where
  | sourceDialect
  | sourceDirtyReads
  | sourceEncapsulate
  | sourceTimeout
  | adapterBulkLoad
  | adapterReadLimit
  | bulkLoad
  | dirtyReads
  | readLimitEnabled
  | readLimit
  | encapsulate
  | tableAlias
  | dialect
  | timeout
  deriving DecidableEq, Repr

namespace Field

def Value : Field → Type
  | .sourceDialect | .dialect => DialectName
  | .sourceDirtyReads | .sourceEncapsulate | .adapterBulkLoad => Bool
  | .bulkLoad | .dirtyReads | .readLimitEnabled | .encapsulate => Bool
  | .sourceTimeout => Option UInt64
  | .adapterReadLimit => Option UInt32
  | .readLimit => UInt32
  | .tableAlias => Option String
  | .timeout => Option Timeout

def get (s : Settings) : (f : Field) → f.Value
  | .sourceDialect => s.source.dialect
  | .sourceDirtyReads => s.source.dirtyReads
  | .sourceEncapsulate => s.source.encapsulate
  | .sourceTimeout => s.source.timeoutSeconds
  | .adapterBulkLoad => s.adapter.bulkLoad
  | .adapterReadLimit => s.adapter.readLimit
  | .bulkLoad => s.options.bulkLoad
  | .dirtyReads => s.options.dirtyReads
  | .readLimitEnabled => s.options.readLimitEnabled
  | .readLimit => s.options.readLimit
  | .encapsulate => s.options.encapsulate
  | .tableAlias => s.options.tableAlias
  | .dialect => s.options.dialect
  | .timeout => s.options.timeout

/-- The value of a field that nothing has written. -/
def initial : (f : Field) → f.Value
  | .sourceDialect | .dialect => DialectName.sqlServer
  | .sourceDirtyReads | .sourceEncapsulate | .adapterBulkLoad => false
  | .bulkLoad | .dirtyReads | .readLimitEnabled | .encapsulate => false
  | .sourceTimeout | .adapterReadLimit | .tableAlias | .timeout => none
  | .readLimit => (0 : UInt32)

def ofOptions : Field → Bool
  | .sourceDialect | .sourceDirtyReads | .sourceEncapsulate | .sourceTimeout => false
  | .adapterBulkLoad | .adapterReadLimit => false
  | .bulkLoad | .dirtyReads | .readLimitEnabled | .readLimit => true
  | .encapsulate | .tableAlias | .dialect | .timeout => true

/-- Settings have no more than these fields. -/
theorem eq_of_get {s t : Settings} (same : ∀ f, get s f = get t f) : s = t := by
  obtain ⟨⟨_, _, _, _⟩, ⟨_, _⟩, ⟨_, _, _, _, _, _, _, _⟩⟩ := s
  obtain ⟨⟨_, _, _, _⟩, ⟨_, _⟩, ⟨_, _, _, _, _, _, _, _⟩⟩ := t
  congr 2
  · exact same .sourceDialect
  · exact same .sourceDirtyReads
  · exact same .sourceEncapsulate
  · exact same .sourceTimeout
  · exact same .adapterBulkLoad
  · exact same .adapterReadLimit
  · exact same .bulkLoad
  · exact same .dirtyReads
  · exact same .readLimitEnabled
  · exact same .readLimit
  · exact same .encapsulate
  · exact same .tableAlias
  · exact same .dialect
  · exact same .timeout

theorem get_default (f : Field) : get {} f = f.initial := by
  cases f <;> rfl

end Field

namespace Change

/-- The fields that a change writes. -/
def fields : Change → List Field
  | .sourceDialect _ => [.sourceDialect]
  | .sourceDirtyReads _ => [.sourceDirtyReads]
  | .sourceEncapsulate _ => [.sourceEncapsulate]
  | .sourceTimeout _ => [.sourceTimeout]
  | .adapterBulkLoad _ => [.adapterBulkLoad]
  | .adapterReadLimit _ => [.adapterReadLimit]
  | .merge =>
    [.bulkLoad, .dirtyReads, .readLimitEnabled, .readLimit, .encapsulate, .tableAlias, .dialect,
      .timeout]
  | .bulkLoad _ => [.bulkLoad]
  | .dirtyReads _ => [.dirtyReads]
  | .readLimit _ => [.readLimitEnabled, .readLimit]
  | .encapsulate _ => [.encapsulate]
  | .tableAlias _ => [.tableAlias]
  | .dialect _ => [.dialect]
  | .timeout _ => [.timeout]

/-- What a change writes to a field, if it writes it, where the settings are these when it is made. A
data source keeps the whole seconds of a timeout, and a merge makes of them a timeout of so many
seconds and no nanoseconds. -/
def written? (now : Settings) : Change → (f : Field) → Option f.Value
  | .sourceDialect name, .sourceDialect => some name
  | .sourceDirtyReads on, .sourceDirtyReads => some on
  | .sourceEncapsulate on, .sourceEncapsulate => some on
  | .sourceTimeout span, .sourceTimeout => some (some span.seconds)
  | .adapterBulkLoad on, .adapterBulkLoad => some on
  | .adapterReadLimit limit, .adapterReadLimit => some (some limit)
  | .merge, .bulkLoad => some now.adapter.bulkLoad
  | .merge, .dirtyReads => some now.source.dirtyReads
  | .merge, .readLimitEnabled => some now.adapter.readLimit.isSome
  | .merge, .readLimit => some (now.adapter.readLimit.getD 0)
  | .merge, .encapsulate => some now.source.encapsulate
  | .merge, .tableAlias => some none
  | .merge, .dialect => some now.source.dialect
  | .merge, .timeout =>
    some (now.source.timeoutSeconds.map fun n =>
      ({ seconds := n, nanos := 0, nanos_lt := Timeout.zero_nanos_lt } : Timeout))
  | .bulkLoad on, .bulkLoad => some on
  | .dirtyReads on, .dirtyReads => some on
  | .readLimit _, .readLimitEnabled => some true
  | .readLimit limit, .readLimit => some limit
  | .encapsulate on, .encapsulate => some on
  | .tableAlias name, .tableAlias => some (some name)
  | .dialect name, .dialect => some name
  | .timeout span, .timeout => some (some span)
  | _, _ => none

theorem isSome_written? (now : Settings) (change : Change) (f : Field) :
    (change.written? now f).isSome = decide (f ∈ change.fields) := by
  cases change <;> cases f <;> rfl

theorem written?_eq_none_iff {now : Settings} {change : Change} {f : Field} :
    change.written? now f = none ↔ f ∉ change.fields := by
  rw [← Option.not_isSome_iff_eq_none, isSome_written?, decide_eq_true_iff]

end Change

/-- One change: a field holds what the change writes to it, and is as before if it writes nothing. -/
theorem get_apply (s : Settings) (change : Change) (f : Field) :
    f.get (s.apply change) = (change.written? s f).getD (f.get s) := by
  cases change <;> cases f <;> rfl

theorem get_apply_of_not_mem {s : Settings} {change : Change} {f : Field}
    (untouched : f ∉ change.fields) : f.get (s.apply change) = f.get s := by
  rw [get_apply, Change.written?_eq_none_iff.mpr untouched, Option.getD_none]

theorem applyAll_append (s : Settings) (before after : List Change) :
    s.applyAll (before ++ after) = (s.applyAll before).applyAll after :=
  List.foldl_append

/-- A run of changes that do not write a field leaves it as it is. -/
theorem get_applyAll_of_not_mem {s : Settings} {changes : List Change} {f : Field}
    (untouched : ∀ change ∈ changes, f ∉ change.fields) : f.get (s.applyAll changes) = f.get s := by
  induction changes generalizing s with
  | nil => rfl
  | cons change rest ih =>
    obtain ⟨first, others⟩ := List.forall_mem_cons.mp untouched
    exact (ih others).trans (get_apply_of_not_mem first)

/-- The value is what the last of the changes that write the field wrote to it, starting from the
defaults, or the default where none of them writes it. -/
inductive LastWrite (f : Field) : List Change → f.Value → Prop where
  | never {changes : List Change} (untouched : ∀ change ∈ changes, f ∉ change.fields) :
      LastWrite f changes f.initial
  | last {before after : List Change} {change : Change} {value : f.Value}
      (writes : change.written? (applyAll {} before) f = some value)
      (untouched : ∀ later ∈ after, f ∉ later.fields) :
      LastWrite f (before ++ change :: after) value

theorem LastWrite.get_eq {f : Field} {changes : List Change} {value : f.Value}
    (wrote : LastWrite f changes value) : f.get (applyAll {} changes) = value := by
  cases wrote with
  | never untouched => exact (get_applyAll_of_not_mem untouched).trans (Field.get_default f)
  | @last before after change _ writes untouched =>
    calc f.get (applyAll {} (before ++ change :: after))
      _ = f.get (((applyAll {} before).apply change).applyAll after) := by
        rw [applyAll_append]
        rfl
      _ = f.get ((applyAll {} before).apply change) := get_applyAll_of_not_mem untouched
      _ = value := by rw [get_apply, writes, Option.getD_some]

/-- Every field has a last writer or none, so that there is a value for it. -/
theorem exists_lastWrite (f : Field) (changes : List Change) : ∃ value, LastWrite f changes value := by
  induction changes using List.reverseRecOn with
  | nil => exact ⟨_, .never (by simp)⟩
  | append_singleton changes change ih =>
    cases writes : change.written? (applyAll {} changes) f with
    | some value => exact ⟨value, .last writes (by simp)⟩
    | none =>
      have untouched : ∀ later ∈ [change], f ∉ later.fields :=
        List.forall_mem_singleton.mpr (Change.written?_eq_none_iff.mp writes)
      obtain ⟨value, wrote⟩ := ih
      refine ⟨value, ?_⟩
      cases wrote with
      | never earlier => exact .never (List.forall_mem_append.mpr ⟨earlier, untouched⟩)
      | last writes' earlier =>
        rw [List.append_assoc, List.cons_append]
        exact .last writes' (List.forall_mem_append.mpr ⟨earlier, untouched⟩)

theorem lastWrite_iff {f : Field} {changes : List Change} {value : f.Value} :
    LastWrite f changes value ↔ f.get (applyAll {} changes) = value := by
  constructor
  · exact LastWrite.get_eq
  · rintro rfl
    obtain ⟨value, wrote⟩ := exists_lastWrite f changes
    rwa [wrote.get_eq]

theorem options_apply {s : Settings} {change : Change}
    (other : ∀ f ∈ change.fields, f.ofOptions = false) :
    (s.apply change).options = s.options := by
  cases change with
  | sourceDialect | sourceDirtyReads | sourceEncapsulate | sourceTimeout => rfl
  | adapterBulkLoad | adapterReadLimit => rfl
  | merge | bulkLoad | dirtyReads | readLimit | encapsulate | tableAlias | dialect | timeout =>
    simp [Change.fields, Field.ofOptions] at other

/-- Whatever changes the other settings leaves the options as they are. -/
theorem options_applyAll {s : Settings} {changes : List Change}
    (others : ∀ change ∈ changes, ∀ f ∈ change.fields, f.ofOptions = false) :
    (s.applyAll changes).options = s.options := by
  induction changes generalizing s with
  | nil => rfl
  | cons change rest ih =>
    obtain ⟨first, later⟩ := List.forall_mem_cons.mp others
    exact (ih later).trans (options_apply first)

/-- After any run of changes from the defaults, the settings are those of which every field is of its last
writer. The options of a merge stay as they were merged while only the other settings change: they hold
what the data source and the adapter held at the moment of the merge, and no alias. -/
theorem applyAll_last_writers (changes : List Change) :
    (∀ s, applyAll {} changes = s ↔ ∀ f, LastWrite f changes (f.get s)) ∧
    ∀ before after, changes = before ++ .merge :: after →
      (∀ later ∈ after, ∀ f ∈ later.fields, f.ofOptions = false) →
      let source := (applyAll {} before).source
      let adapter := (applyAll {} before).adapter
      (applyAll {} changes).options = {
        bulkLoad := adapter.bulkLoad
        dirtyReads := source.dirtyReads
        readLimitEnabled := adapter.readLimit.isSome
        readLimit := adapter.readLimit.getD 0
        encapsulate := source.encapsulate
        tableAlias := none
        dialect := source.dialect
        timeout := source.timeoutSeconds.map fun n => { seconds := n, nanos := 0 } } := by
  constructor
  · intro s
    constructor
    · rintro rfl f
      exact lastWrite_iff.mpr rfl
    · intro wrote
      exact Field.eq_of_get fun f => lastWrite_iff.mp (wrote f)
  · rintro before after rfl untouched
    rw [applyAll_append]
    exact options_applyAll (s := (applyAll {} before).apply .merge) untouched

/-- Two merges with changes before, between and after them. -/
def busyRun : List Change :=
  [.adapterReadLimit 50, .merge, .readLimit 7, .tableAlias "t",
    .sourceTimeout { seconds := 30, nanos := 5 }, .dialect .postgres, .merge,
    .sourceTimeout { seconds := 60, nanos := 5 }, .adapterBulkLoad true]

theorem busyRun_settled :
    (applyAll {} busyRun).options =
      { readLimitEnabled := true, readLimit := 50, timeout := some { seconds := 30, nanos := 0 } } ∧
    LastWrite .timeout busyRun (some ({ seconds := 30, nanos := 0 } : Timeout)) := by
  obtain ⟨settled, merged⟩ := applyAll_last_writers busyRun
  exact ⟨merged (busyRun.take 6) (busyRun.drop 7) rfl (by decide), (settled _).mp rfl .timeout⟩

end EntityCrud.Settings
