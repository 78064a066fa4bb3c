import EntityCrud.Proofs.Characters
/-! Quoted and bare names. Quoting changes nothing of a statement but the delimiters around the parts of
its names: where no name holds a delimiter, the delimiters are all that there is to take away. -/
namespace EntityCrud
open Sql (Dialect DialectName Delimiters Fragment)

namespace Sql
namespace Delimiters

def delimits (d : Delimiters) (c : Char) : Bool := c == d.opening || c == d.closing

/-- The text without its delimiters. -/
def erase (d : Delimiters) (text : List Char) : List Char := text.filter fun c => !d.delimits c

section
variable {d : Delimiters}

theorem erase_append (front back : List Char) :
    d.erase (front ++ back) = d.erase front ++ d.erase back :=
  List.filter_append front back

theorem erase_eq_self {text : List Char} (free : ∀ c ∈ text, d.delimits c = false) :
    d.erase text = text := by
  refine List.filter_eq_self.mpr fun c member => ?_
  rw [free c member]
  rfl

theorem doubled_eq_self {part : List Char} (free : ∀ c ∈ part, d.delimits c = false) :
    d.doubled part = part := by
  induction part with
  | nil => rfl
  | cons c rest ih =>
    obtain ⟨first, others⟩ := List.forall_mem_cons.mp free
    have other : c ≠ d.closing := by
      rintro rfl
      simp [delimits] at first
    have tail := ih others
    unfold doubled at tail ⊢
    rw [List.flatMap_cons, if_neg other, tail]
    rfl

theorem erase_quote {part : List Char} (free : ∀ c ∈ part, d.delimits c = false) :
    d.erase (d.quote part) = part := by
  have opening : d.erase [d.opening] = [] := by simp [erase, delimits]
  have closing : d.erase [d.closing] = [] := by simp [erase, delimits]
  rw [quote, doubled_eq_self free, ← List.singleton_append, List.append_assoc, erase_append,
    erase_append, opening, closing, erase_eq_self free, List.append_nil, List.nil_append]

end
end Delimiters

section
variable {dialect : DialectName}

theorem not_delimits {kind : Char → Bool} (opening : kind dialect.delimiters.opening = false)
    (closing : kind dialect.delimiters.closing = false) {c : Char} (member : kind c = true) :
    dialect.delimiters.delimits c = false := by
  have apart : c ≠ dialect.delimiters.opening ∧ c ≠ dialect.delimiters.closing := by
    constructor <;> rintro rfl <;> simp_all
  simp [Delimiters.delimits, apart]

theorem delimits_of_isStructural {c : Char} (structural : isStructural c = true) :
    dialect.delimiters.delimits c = false := by
  cases dialect <;> exact not_delimits rfl rfl structural

theorem delimits_of_isWordRest {c : Char} (inside : Text.isWordRest c = true) :
    dialect.delimiters.delimits c = false := by
  cases dialect <;> exact not_delimits rfl rfl inside

/-- A reference to a parameter holds no delimiter. -/
theorem delimits_placeholder {parameter : String} (named : isParameterName parameter = true)
    (place : Nat) : ∀ c ∈ (dialect.dialect.placeholder parameter place).toList,
      dialect.delimiters.delimits c = false := by
  obtain ⟨word, spelled, inner⟩ := @placeholder_eq_cons dialect _ named place
  have sigil : dialect.delimiters.delimits dialect.sigil = false := by cases dialect <;> rfl
  rw [spelled, List.forall_mem_cons]
  exact ⟨sigil, fun c member => delimits_of_isWordRest (inner c member)⟩

/-- No name that a statement can show holds a delimiter. -/
def Undelimited (dialect : DialectName) (names : List String) : Prop :=
  ∀ name ∈ names, ∀ c ∈ name.toList, dialect.delimiters.delimits c = false

theorem undelimited_iff {names : List String} :
    names.all (fun name => name.toList.all fun c => !dialect.delimiters.delimits c) = true ↔
      Undelimited dialect names := by
  simp [Undelimited]

instance (names : List String) : Decidable (Undelimited dialect names) :=
  decidable_of_iff _ undelimited_iff

theorem erase_identifier {name : String}
    (free : ∀ c ∈ name.toList, dialect.delimiters.delimits c = false) :
    dialect.delimiters.erase (dialect.dialect.identifier true name).toList = name.toList := by
  have dot : dialect.delimiters.erase ['.'] = ['.'] := by cases dialect <;> rfl
  have parts : ∀ part ∈ name.toList.splitOn '.', ∀ c ∈ part,
      dialect.delimiters.delimits c = false := by
    intro part listed c member
    apply free
    have joined : ['.'].intercalate (name.toList.splitOn '.') = name.toList :=
      List.intercalate_splitOn '.'
    rw [← joined]
    exact mem_intercalate_of_mem listed member
  have erased : (name.toList.splitOn '.').map
      (fun part => dialect.delimiters.erase (dialect.delimiters.quote part)) =
        name.toList.splitOn '.' := by
    conv => rhs; rw [← List.map_id (name.toList.splitOn '.')]
    exact List.map_congr_left fun part listed => Delimiters.erase_quote (parts part listed)
  calc dialect.delimiters.erase (dialect.dialect.identifier true name).toList
    _ = dialect.delimiters.erase (['.'].intercalate
          ((name.toList.splitOn '.').map dialect.delimiters.quote)) := by rw [toList_identifier]
    _ = ['.'].intercalate ((name.toList.splitOn '.').map
          fun part => dialect.delimiters.erase (dialect.delimiters.quote part)) := by
      rw [Delimiters.erase, filter_intercalate, ← Delimiters.erase, dot, List.map_map]
      rfl
    _ = name.toList := by rw [erased, List.intercalate_splitOn]

namespace Fragment
variable {names : List String}

theorem erase_spell_singleton (free : Undelimited dialect names) {f : Fragment}
    (sound : f.Sound names) (place : Nat) :
    dialect.delimiters.erase (spell dialect.dialect true place [f]).toList =
      (spell dialect.dialect false place [f]).toList := by
  cases sound with
  | fixed fixed =>
    rw [fixed.spell_eq _ true, fixed.spell_eq _ false place]
    refine Delimiters.erase_eq_self fun c member => ?_
    exact delimits_of_isStructural (fixed.structural dialect false 1 c member)
  | name given => simpa [spell, Dialect.identifier] using erase_identifier (free _ given)
  | slot named => simpa [spell] using Delimiters.erase_eq_self (delimits_placeholder named place)

/-- Erasing the delimiters of quoted fragments leaves the bare ones. -/
theorem erase_spell (free : Undelimited dialect names) {fragments : List Fragment}
    (sound : ∀ f ∈ fragments, f.Sound names) (place : Nat) :
    dialect.delimiters.erase (spell dialect.dialect true place fragments).toList =
      (spell dialect.dialect false place fragments).toList := by
  induction fragments generalizing place with
  | nil => rfl
  | cons f rest ih =>
    obtain ⟨first, others⟩ := List.forall_mem_cons.mp sound
    rw [← List.singleton_append, spell_append, spell_append, String.toList_append,
      String.toList_append, Delimiters.erase_append, erase_spell_singleton free first, ih others]

end Fragment
end
end Sql

namespace Statement

/-- The statement without the delimiters in its text. -/
def undelimited (dialect : DialectName) (s : Statement) : Statement :=
  { s with sql := String.ofList (dialect.delimiters.erase s.sql.toList) }

theorem ofPlan_bare {dialect : DialectName} {plan : Plan} {names : List String}
    (free : Sql.Undelimited dialect names) (sound : ∀ f ∈ Sql.fragments plan, f.Sound names) :
    ofPlan { plan with encapsulate := false } dialect.dialect =
      (ofPlan { plan with encapsulate := true } dialect.dialect).map (undelimited dialect) := by
  have erased := Fragment.erase_spell free sound 1
  have bare : Fragment.spell dialect.dialect false 1 (Sql.fragments plan) =
      String.ofList (dialect.delimiters.erase
        (Fragment.spell dialect.dialect true 1 (Sql.fragments plan)).toList) := by
    rw [erased, String.ofList_toList]
  have same (encapsulate : Bool) :
      Sql.fragments { plan with encapsulate } = Sql.fragments plan := rfl
  unfold ofPlan
  simp only [same, bare]
  split
  · rfl
  split
  · rfl
  · rfl

/-- Whether names are quoted is no matter before the plan is rendered. -/
theorem compile_encapsulate (op : Operation) (shape : Shape) (columns : List Column) (table : Table)
    (options : Options) (encapsulate : Bool) :
    compile op shape columns table { options with encapsulate } =
      match Plan.fault? columns table options with
      | some fault => .error (.invalidArgument fault)
      | none =>
        (ofPlan { Plan.assemble op shape columns table options with encapsulate }
          options.dialect.dialect).map fun rendered =>
            { rendered with timeout := options.timeout } :=
  compile_eq op shape columns table { options with encapsulate }

/-- Quoting its names or not, a compilation is refused for the same cause or yields the same parameters
and the same timeout, and the bare text is the quoted one without its delimiters, provided that no name
of the table or of a column and no alias holds one. -/
theorem compile_bare (op : Operation) (shape : Shape) (columns : List Column) (table : Table)
    (options : Options)
    (free : Sql.Undelimited options.dialect (givenNames columns table options)) :
    compile op shape columns table { options with encapsulate := false } =
      (compile op shape columns table { options with encapsulate := true }).map
        (undelimited options.dialect) := by
  rw [compile_encapsulate, compile_encapsulate]
  cases usable : Plan.fault? columns table options with
  | some fault => rfl
  | none =>
    have sound := @Plan.sound_fragments op shape columns table options usable
    simp only [ofPlan_bare free sound]
    cases ofPlan { Plan.assemble op shape columns table options with encapsulate := true }
      options.dialect.dialect <;> rfl

/-- Names of many parts, of which some are empty. -/
def dottedColumns : List Column :=
  [{ name := ".o.Id", parameter := "@Id", primaryKey := true },
    { name := "Net..Price", parameter := "@Price", aliasName := some "o.price." }]

theorem dotted_names_bare :
    Sql.Undelimited .sqlServer (givenNames dottedColumns { name := "shop..Order" }
      { tableAlias := some "o" }) ∧
    ∃ quoted bare,
      compile .select .single dottedColumns { name := "shop..Order" }
        { tableAlias := some "o", encapsulate := true } = .ok quoted ∧
      compile .select .single dottedColumns { name := "shop..Order" }
        { tableAlias := some "o", encapsulate := false } = .ok bare ∧
      bare = quoted.undelimited .sqlServer ∧
      quoted.sql = "SELECT [Net].[].[Price] AS [o].[price].[] FROM [shop].[].[Order] AS [o]" ++
        " WHERE [].[o].[Id] = @Id" ∧
      bare.sql = "SELECT Net..Price AS o.price. FROM shop..Order AS o WHERE .o.Id = @Id" := by
  have free : Sql.Undelimited .sqlServer (givenNames dottedColumns { name := "shop..Order" }
    { tableAlias := some "o" }) := by decide
  have quoted : compile .select .single dottedColumns { name := "shop..Order" }
    { tableAlias := some "o", encapsulate := true } = .ok _ := rfl
  have bare := compile_bare .select .single dottedColumns { name := "shop..Order" }
    { tableAlias := some "o" } free
  rw [quoted] at bare
  exact ⟨free, _, _, quoted, bare, rfl, by decide, by decide⟩

end Statement
end EntityCrud
