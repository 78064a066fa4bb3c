import EntityCrud.Project.Reading
import EntityCrud.Proofs.Objections
import Mathlib.Data.List.Induction
import Mathlib.Data.List.Nodup
/-! Usable projects. The entities are gone through once, and the first that fails a check is reported with
the first check it fails; a project that passes has entities that are found by their names, each with a
table and columns, so that no compilation of them misses either. -/
namespace EntityCrud
open Text (Blank)

/-- The entity has a name that none before it has, and a table and columns. -/
structure Entity.Passes (earlier : List Entity) (e : Entity) : Prop where
  named : ¬ Blank e.name
  fresh : ¬ ∃ other ∈ earlier, other.name = e.name
  placed : ¬ Blank e.table.name
  columns : e.columns ≠ []

/-- The first check that an entity fails, given the entities before it. -/
inductive Entity.Fails (earlier : List Entity) (e : Entity) : ProjectFault → Prop where
  | name (blank : Blank e.name) : Fails earlier e .blankEntityName
  | again (named : ¬ Blank e.name) (taken : ∃ other ∈ earlier, other.name = e.name) :
      Fails earlier e (.duplicateEntity e.name)
  | table (named : ¬ Blank e.name) (fresh : ¬ ∃ other ∈ earlier, other.name = e.name)
      (blank : Blank e.table.name) : Fails earlier e (.blankTable e.name)
  | columns (named : ¬ Blank e.name) (fresh : ¬ ∃ other ∈ earlier, other.name = e.name)
      (placed : ¬ Blank e.table.name) (none : e.columns = []) : Fails earlier e (.noColumns e.name)

namespace Project

/-- Every entity has a name, a table and columns, and no two share a name. -/
structure Sound (entities : List Entity) : Prop where
  named : ∀ e ∈ entities, ¬ Blank e.name
  apart : (entities.map Entity.name).Nodup
  placed : ∀ e ∈ entities, ¬ Blank e.table.name
  columns : ∀ e ∈ entities, e.columns ≠ []

theorem sound_nil : Sound [] := by
  constructor <;> simp

theorem sound_concat {earlier : List Entity} {e : Entity} :
    Sound (earlier ++ [e]) ↔ Sound earlier ∧ e.Passes earlier := by
  have each {P : Entity → Prop} : (∀ x ∈ earlier ++ [e], P x) ↔ (∀ x ∈ earlier, P x) ∧ P e := by
    rw [List.forall_mem_append, List.forall_mem_singleton]
  have apart : ((earlier ++ [e]).map Entity.name).Nodup ↔
      (earlier.map Entity.name).Nodup ∧ ¬ ∃ other ∈ earlier, other.name = e.name := by
    rw [List.map_append, List.map_singleton, ← List.concat_eq_append, List.nodup_concat, and_comm,
      List.mem_map]
  constructor
  · rintro ⟨named, distinct, placed, columns⟩
    obtain ⟨others, fresh⟩ := apart.mp distinct
    rw [each] at named placed columns
    exact ⟨⟨named.1, others, placed.1, columns.1⟩, named.2, fresh, placed.2, columns.2⟩
  · rintro ⟨sound, passes⟩
    exact ⟨each.mpr ⟨sound.named, passes.named⟩, apart.mpr ⟨sound.apart, passes.fresh⟩,
      each.mpr ⟨sound.placed, passes.placed⟩, each.mpr ⟨sound.columns, passes.columns⟩⟩

/-- The names of the entities before an entity, the last of them first. -/
def seen (earlier : List Entity) : List String := (earlier.map Entity.name).reverse

section
variable {earlier : List Entity} {e : Entity}

theorem mem_seen_iff {name : String} :
    name ∈ seen earlier ↔ ∃ other ∈ earlier, other.name = name := by
  rw [seen, List.mem_reverse, List.mem_map]

theorem entityFault?_cons (earlier : List Entity) (e : Entity) (rest : List Entity) :
    entityFault? (seen earlier) (e :: rest) =
      if Blank e.name then some .blankEntityName
      else if ∃ other ∈ earlier, other.name = e.name then some (.duplicateEntity e.name)
      else if Blank e.table.name then some (.blankTable e.name)
      else if e.columns = [] then some (.noColumns e.name)
      else entityFault? (seen (earlier ++ [e])) rest := by
  have known : seen (earlier ++ [e]) = e.name :: seen earlier := by simp [seen]
  simp only [entityFault?, Text.isBlank_iff, mem_seen_iff, List.isEmpty_iff, known]

theorem entityFault?_cons_of_passes (passes : e.Passes earlier) (rest : List Entity) :
    entityFault? (seen earlier) (e :: rest) = entityFault? (seen (earlier ++ [e])) rest := by
  rw [entityFault?_cons, if_neg passes.named, if_neg passes.fresh, if_neg passes.placed,
    if_neg passes.columns]

theorem entityFault?_cons_of_fails {fault : ProjectFault} (fails : e.Fails earlier fault)
    (rest : List Entity) : entityFault? (seen earlier) (e :: rest) = some fault := by
  rw [entityFault?_cons]
  cases fails with
  | name blank => rw [if_pos blank]
  | again named taken => rw [if_neg named, if_pos taken]
  | table named fresh blank => rw [if_neg named, if_neg fresh, if_pos blank]
  | columns named fresh placed none =>
    rw [if_neg named, if_neg fresh, if_neg placed, if_pos none]

theorem passes_or_fails (earlier : List Entity) (e : Entity) :
    e.Passes earlier ∨ ∃ fault, e.Fails earlier fault := by
  by_cases named : Blank e.name
  · exact .inr ⟨_, .name named⟩
  by_cases fresh : ∃ other ∈ earlier, other.name = e.name
  · exact .inr ⟨_, .again named fresh⟩
  by_cases placed : Blank e.table.name
  · exact .inr ⟨_, .table named fresh placed⟩
  by_cases columns : e.columns = []
  · exact .inr ⟨_, .columns named fresh placed columns⟩
  · exact .inl ⟨named, fresh, placed, columns⟩

end

/-- Entities that pass are gone through without a report. -/
theorem entityFault?_append {front : List Entity} (sound : Sound front) (back : List Entity) :
    entityFault? [] (front ++ back) = entityFault? (seen front) back := by
  induction front using List.reverseRecOn generalizing back with
  | nil => rfl
  | append_singleton front e ih =>
    obtain ⟨earlier, passes⟩ := sound_concat.mp sound
    rw [List.append_assoc, List.singleton_append, ih earlier, entityFault?_cons_of_passes passes]

/-- Some entity is the first that fails a check, and the fault is the first that it has. -/
def FirstFault (entities : List Entity) (fault : ProjectFault) : Prop :=
  ∃ earlier e later, entities = earlier ++ e :: later ∧ Sound earlier ∧ e.Fails earlier fault

theorem sound_or_firstFault (entities : List Entity) :
    Sound entities ∨ ∃ fault, FirstFault entities fault := by
  induction entities using List.reverseRecOn with
  | nil => exact .inl sound_nil
  | append_singleton earlier e ih =>
    rcases ih with sound | ⟨fault, front, other, later, rfl, sound, fails⟩
    · rcases passes_or_fails earlier e with passes | ⟨fault, fails⟩
      · exact .inl (sound_concat.mpr ⟨sound, passes⟩)
      · exact .inr ⟨fault, earlier, e, [], rfl, sound, fails⟩
    · exact .inr ⟨fault, front, other, later ++ [e], by simp, sound, fails⟩

section
variable {entities : List Entity}

theorem entityFault?_of_sound (sound : Sound entities) : entityFault? [] entities = none := by
  have last := entityFault?_append sound []
  rwa [List.append_nil] at last

theorem entityFault?_of_firstFault {fault : ProjectFault} (first : FirstFault entities fault) :
    entityFault? [] entities = some fault := by
  obtain ⟨earlier, e, later, rfl, sound, fails⟩ := first
  rw [entityFault?_append sound, entityFault?_cons_of_fails fails]

theorem entityFault?_eq_none_iff : entityFault? [] entities = none ↔ Sound entities := by
  constructor
  · intro silent
    rcases sound_or_firstFault entities with sound | ⟨fault, first⟩
    · exact sound
    · rw [entityFault?_of_firstFault first] at silent
      contradiction
  · exact entityFault?_of_sound

theorem entityFault?_eq_some_iff {fault : ProjectFault} :
    entityFault? [] entities = some fault ↔ FirstFault entities fault := by
  constructor
  · intro reported
    rcases sound_or_firstFault entities with sound | ⟨other, first⟩
    · rw [entityFault?_of_sound sound] at reported
      contradiction
    · rw [entityFault?_of_firstFault first] at reported
      cases reported
      exact first
  · exact entityFault?_of_firstFault

end

section
variable {p : Project}

theorem fault?_eq_none_iff : p.fault? = none ↔ p.entities ≠ [] ∧ Sound p.entities := by
  rw [← entityFault?_eq_none_iff, fault?]
  cases p.entities <;> simp

theorem fault?_eq_some_iff {fault : ProjectFault} :
    p.fault? = some fault ↔
      (p.entities = [] ∧ fault = .noEntities) ∨ FirstFault p.entities fault := by
  have nothing : entityFault? [] [] = none := rfl
  rw [← entityFault?_eq_some_iff, fault?]
  cases p.entities <;> simp [nothing, eq_comm]

theorem names_nodup (usable : p.fault? = none) : (p.entities.map Entity.name).Nodup :=
  (fault?_eq_none_iff.mp usable).2.apart

theorem mem_of_entity? {name : String} {e : Entity} (found : p.entity? name = some e) :
    e ∈ p.entities ∧ e.name = name := by
  unfold entity? at found
  have named := List.find?_some found
  exact ⟨List.mem_of_find?_eq_some found, eq_of_beq named⟩

theorem entity?_of_mem (usable : p.fault? = none) {e : Entity} (listed : e ∈ p.entities) :
    p.entity? e.name = some e := by
  cases lookup : p.entity? e.name with
  | none => exact absurd (beq_self_eq_true e.name) (List.find?_eq_none.mp lookup e listed)
  | some found =>
    obtain ⟨other, named⟩ := mem_of_entity? lookup
    rw [List.inj_on_of_nodup_map (names_nodup usable) other listed named]

/-- A file that holds a project is accepted for it, or refused for its fault. -/
theorem parse_eq {text : String} (held : (Toml.parse? text).bind (ofData? .lenient) = some p) :
    parse text =
      match p.fault? with
      | some fault => .error fault
      | none => .ok p := by
  cases verdict : p.fault? <;> simp only [parse, held, verdict]

/-- What a file is accepted for is usable. -/
theorem fault?_of_parse {text : String} (accepted : parse text = .ok p) : p.fault? = none := by
  unfold parse at accepted
  split at accepted
  · contradiction
  · split at accepted
    · contradiction
    · rename_i usable
      cases accepted
      exact usable

end
end Project

/-- Only unusable arguments are refused as such. -/
theorem Statement.fault?_of_compile {op : Operation} {shape : Shape} {columns : List Column}
    {table : Table} {options : Options} {fault : ArgumentFault}
    (refused : compile op shape columns table options = .error (.invalidArgument fault)) :
    Plan.fault? columns table options = some fault := by
  rw [compile_eq] at refused
  split at refused
  · rename_i other found
    cases refused
    exact found
  · -- What is refused later misses columns for a part of the statement.
    rw [ofPlan_eq] at refused
    split at refused
    · simp [Except.map] at refused
    split at refused <;> simp [Except.map] at refused

/-- A table with a name and a list with columns are not refused for the want of either. -/
theorem Plan.fault?_ne {columns : List Column} {table : Table} (placed : ¬ Blank table.name)
    (listed : columns ≠ []) (options : Options) :
    fault? columns table options ≠ some .blankTableName ∧
      ∀ sourceType, fault? columns table options ≠ some (.noColumns sourceType) := by
  have named : ¬ Text.isBlank table.name = true := fun blank => placed (Text.isBlank_iff.mp blank)
  have filled : ¬ columns.isEmpty = true := fun none => listed (List.isEmpty_iff.mp none)
  unfold fault?
  rw [if_neg named, if_neg filled]
  split
  · simp
  split
  · simp
  · split <;> simp

namespace Project

/-- A project is usable exactly if it has entities and each of them a name of its own, a table and columns.
Otherwise it has no entities, or its fault is the first check that fails, of the first entity that fails
one, and a file that holds it is refused for that. In a usable project every entity is found by its name,
and no compilation of it is refused for the want of a table name or of columns. -/
theorem fault?_exact (p : Project) :
    (p.fault? = none ↔ p.entities ≠ [] ∧ Sound p.entities) ∧
    (∀ fault, p.fault? = some fault ↔
      (p.entities = [] ∧ fault = .noEntities) ∨ FirstFault p.entities fault) ∧
    (∀ text, (Toml.parse? text).bind (ofData? .lenient) = some p →
      (parse text = .ok p ↔ p.fault? = none) ∧
        ∀ fault, parse text = .error fault ↔ p.fault? = some fault) ∧
    (p.fault? = none → ∀ e ∈ p.entities, p.entity? e.name = some e ∧
      ∀ (op : Operation) (shape : Shape) (options : Options),
        Statement.compile op shape e.columns e.table options ≠
            .error (.invalidArgument .blankTableName) ∧
          ∀ sourceType, Statement.compile op shape e.columns e.table options ≠
            .error (.invalidArgument (.noColumns sourceType))) := by
  refine ⟨fault?_eq_none_iff, fun _ => fault?_eq_some_iff, ?_, ?_⟩
  · intro text held
    rw [parse_eq held]
    cases p.fault? <;> simp
  · intro usable e listed
    obtain ⟨_, sound⟩ := fault?_eq_none_iff.mp usable
    refine ⟨entity?_of_mem usable listed, fun op shape options => ?_⟩
    obtain ⟨named, filled⟩ := Plan.fault?_ne (sound.placed e listed) (sound.columns e listed) options
    exact ⟨fun refused => named (Statement.fault?_of_compile refused),
      fun sourceType refused => filled sourceType (Statement.fault?_of_compile refused)⟩

/-- A table that is missing counts before the columns that are missing with it, and before the name that
the next entity has again. -/
example : fault? { entities := [{ name := "A", table := { name := " " }, columns := [] },
    { name := "A", table := { name := "B" }, columns := [{ name := "Id" }] }] } =
    some (.blankTable "A") := by decide

/-- Two entities of one table whose names differ in the case of a letter only. -/
def alikeProject : Project where
  entities :=
    [{ name := "Note", table := { name := "Notes" }, columns := [{ name := "Id" }] },
      { name := "note", table := { name := "Notes" }, columns := [{ name := "" }] }]

theorem alikeProject_usable :
    (alikeProject.fault? = none ∧
      ∀ e ∈ alikeProject.entities, alikeProject.entity? e.name = some e) ∧
    parse "[adapter]" = .error .noEntities := by
  have usable : alikeProject.fault? = none := by decide
  have held : (Toml.parse? "[adapter]").bind (ofData? .lenient) = some {} := by decide +kernel
  obtain ⟨_, _, _, found⟩ := fault?_exact alikeProject
  obtain ⟨_, _, told, _⟩ := fault?_exact {}
  exact ⟨⟨usable, fun e listed => (found usable e listed).1⟩, ((told _ held).2 _).mpr rfl⟩

end Project
end EntityCrud
