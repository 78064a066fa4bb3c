import EntityCrud.Proofs.OptionValues
/-! The occurrences of options in the arguments of a command. Every list of arguments is cut from the
left in one way, into well-formed occurrences and what ends them, and the cut alone decides what the
list asks for. -/
namespace EntityCrud.CommandLine
open Sql (DialectName)

/-! ## Cutting the arguments -/

/-- What an argument or two arguments in a row say as one occurrence of an option. -/
inductive Spells (command : Command) : List String → Except UsageFault Occurrence → Prop
  | detached {option : OptionName} {spelling value : String} {said : Except UsageFault Occurrence}
      (takes : Takes command option spelling) (means : Means option value said) :
      Spells command [spelling, value] said
  | attached {option : OptionName} {spelling argument value : String}
      {said : Except UsageFault Occurrence} (takes : Takes command option spelling)
      (carried : Carries spelling argument value) (means : Means option value said) :
      Spells command [argument] said
  | verbose {flag : String} (spelled : flag = "-v" ∨ flag = "--verbose") :
      Spells command [flag] (.ok .verbose)
  | bulkLoad (compiles : command = .compile) : Spells command ["--bulk-load"] (.ok .bulkLoad)

/-- Why the occurrences go no further; they are complete where no arguments are left. -/
inductive Ending where
  | help
  | malformed (fault : UsageFault)
  | complete
  deriving DecidableEq, Repr

/-- What ends the occurrences stands at the front of the arguments. -/
inductive Ends (command : Command) : List String → Ending → Prop
  | complete : Ends command [] .complete
  | help {word : String} {rest : List String} (spelled : word = "-h" ∨ word = "--help") :
      Ends command (word :: rest) .help
  | unknown {argument : String} {rest : List String}
      (noHelp : ¬ (argument = "-h" ∨ argument = "--help"))
      (noOption : ∀ more said, ¬ Spells command (argument :: more) said) :
      Ends command (argument :: rest) (.malformed (.unknownArgument argument))
  | valueless {option : OptionName} {spelling : String} (takes : Takes command option spelling) :
      Ends command [spelling] (.malformed (.missingValue option))
  | invalid {given rest : List String} {fault : UsageFault}
      (spelled : Spells command given (.error fault)) :
      Ends command (given ++ rest) (.malformed fault)

/-- The arguments are well-formed occurrences from the left and then what ends them. -/
inductive Cut (command : Command) : List String → List Occurrence → Ending → Prop
  | ends {arguments : List String} {ending : Ending} (stop : Ends command arguments ending) :
      Cut command arguments [] ending
  | occurrence {given rest : List String} {first : Occurrence} {later : List Occurrence}
      {ending : Ending} (spelled : Spells command given (.ok first))
      (further : Cut command rest later ending) :
      Cut command (given ++ rest) (first :: later) ending

/-! ## The one cut of a list -/

/-- What the reading of one argument tells about it. -/
def Reading.About (command : Command) (argument : String) : Reading → Prop
  | .help => argument = "-h" ∨ argument = "--help"
  | .flag occurrence => Spells command [argument] (.ok occurrence)
  | .attached option value =>
    ∃ spelling, Takes command option spelling ∧ Carries spelling argument value
  | .detached option => Takes command option argument
  | .unknown => ¬ (argument = "-h" ∨ argument = "--help")

theorem spells_of_ofFlag? {command : Command} {argument : String} {occurrence : Occurrence}
    (flag : Occurrence.ofFlag? command argument = some occurrence) :
    Spells command [argument] (.ok occurrence) := by
  unfold Occurrence.ofFlag? at flag
  split at flag
  · cases flag
    exact .verbose ‹_›
  · split at flag
    · obtain ⟨rfl, compiles⟩ := ‹_ ∧ _›
      cases flag
      exact .bulkLoad compiles
    · contradiction

theorem about_read (command : Command) (argument : String) :
    (read command argument).About command argument := by
  unfold read
  split
  case isTrue spelled => exact spelled
  case isFalse noHelp =>
    dsimp only
    split
    case h_1 option found =>
      have listed := List.mem_filter.mp (List.mem_of_find?_eq_some found)
      have spelled := List.find?_some found
      exact takes_iff.mpr ⟨listed.2, (eq_of_beq spelled).symm⟩
    case h_2 =>
      split
      case h_1 option value found =>
        obtain ⟨other, listed, carried⟩ := List.exists_of_findSome?_eq_some found
        obtain ⟨_, attached, named⟩ := Option.map_eq_some_iff.mp carried
        cases named
        have takes := takes_iff.mpr ⟨(List.mem_filter.mp listed).2, rfl⟩
        exact ⟨_, takes, .of_attachedValue? attached⟩
      case h_2 =>
        split
        case h_1 occurrence flag => exact spells_of_ofFlag? flag
        case h_2 => exact noHelp

theorem about_of_read {command : Command} {argument : String} {reading : Reading}
    (same : read command argument = reading) : reading.About command argument :=
  same ▸ about_read command argument

/-- The occurrence that an argument begins, and the arguments after it. -/
def Reading.occurrence? (rest : List String) :
    Reading → Option (Except UsageFault Occurrence × List String)
  | .flag occurrence => some (.ok occurrence, rest)
  | .attached option value => some (Occurrence.ofValue option value, rest)
  | .detached option => rest.head?.map (Occurrence.ofValue option ·, rest.tail)
  | .help | .unknown => none

def front? (command : Command) : List String → Option (Except UsageFault Occurrence × List String)
  | [] => none
  | argument :: rest => (read command argument).occurrence? rest

section
variable {command : Command} {arguments given rest : List String}
  {said : Except UsageFault Occurrence}

theorem scan_of_front? (front : front? command arguments = some (said, rest)) :
    scan command arguments = .after said (scan command rest) := by
  cases arguments with
  | nil => contradiction
  | cons argument more =>
    rw [front?] at front
    cases same : read command argument with
    | help | unknown =>
      rw [same] at front
      contradiction
    | flag | attached =>
      rw [same] at front
      cases front
      rw [scan, same]
    | detached option =>
      rw [same] at front
      cases more with
      | nil => contradiction
      | cons value more =>
        cases front
        rw [scan, same]
        rfl

theorem read_verbose {flag : String} (spelled : flag = "-v" ∨ flag = "--verbose") :
    read command flag = .flag .verbose := by
  cases command <;> rcases spelled with rfl | rfl <;> rfl

theorem Spells.front? (spelled : Spells command given said) (rest : List String) :
    front? command (given ++ rest) = some (said, rest) := by
  cases spelled with
  | detached takes means =>
    obtain ⟨admitted, rfl⟩ := takes_iff.mp takes
    rw [List.cons_append, CommandLine.front?, read_spelling admitted, means.eq_ofValue]
    rfl
  | attached takes carried means =>
    obtain ⟨admitted, rfl⟩ := takes_iff.mp takes
    obtain ⟨text, rfl, rfl⟩ := carried.exists_attach
    rw [List.cons_append, CommandLine.front?, read_attach admitted, means.eq_ofValue]
    rfl
  | verbose spelled =>
    rw [List.cons_append, CommandLine.front?, read_verbose spelled]
    rfl
  | bulkLoad compiles =>
    subst compiles
    rfl

theorem Spells.scan (spelled : Spells command given said) (rest : List String) :
    scan command (given ++ rest) = .after said (scan command rest) :=
  scan_of_front? (spelled.front? rest)

theorem not_spells_of_unknown {argument : String} (unknown : read command argument = .unknown)
    (more : List String) : ¬ Spells command (argument :: more) said := by
  intro spelled
  have front := spelled.front? []
  rw [List.cons_append, CommandLine.front?, unknown] at front
  contradiction

theorem exists_cut (command : Command) (arguments : List String) :
    ∃ occurrences ending, Cut command arguments occurrences ending := by
  have step {given rest : List String} {said : Except UsageFault Occurrence}
      (spelled : Spells command given said)
      (further : ∃ occurrences ending, Cut command rest occurrences ending) :
      ∃ occurrences ending, Cut command (given ++ rest) occurrences ending := by
    cases said with
    | error fault => exact ⟨[], _, .ends (.invalid spelled)⟩
    | ok occurrence =>
      obtain ⟨later, ending, further⟩ := further
      exact ⟨occurrence :: later, ending, .occurrence spelled further⟩
  fun_induction CommandLine.scan command arguments with
  | case1 => exact ⟨[], _, .ends .complete⟩
  | case2 argument rest help => exact ⟨[], _, .ends (.help (about_of_read help))⟩
  | case3 argument rest occurrence flag ih => exact step (about_of_read flag) ih
  | case4 argument rest option value attached ih =>
    obtain ⟨_, takes, carried⟩ := about_of_read attached
    exact step (.attached takes carried (means_ofValue option value)) ih
  | case5 argument option detached =>
    exact ⟨[], _, .ends (.valueless (about_of_read detached))⟩
  | case6 argument option detached value rest ih =>
    have takes : Takes command option argument := about_of_read detached
    exact step (.detached takes (means_ofValue option value)) ih
  | case7 argument rest unknown =>
    have noOption (more : List String) (said : Except UsageFault Occurrence) :
        ¬ Spells command (argument :: more) said := not_spells_of_unknown unknown more
    exact ⟨[], _, .ends (.unknown (about_of_read unknown) noOption)⟩

end

def Ending.scan (occurrences : List Occurrence) : Ending → Scan
  | .help => .help
  | .malformed fault => .malformed fault
  | .complete => .complete occurrences

section
variable {command : Command} {arguments : List String} {occurrences others : List Occurrence}
  {ending other : Ending}

theorem read_unknown {argument : String} (noHelp : ¬ (argument = "-h" ∨ argument = "--help"))
    (noOption : ∀ more said, ¬ Spells command (argument :: more) said) :
    read command argument = .unknown := by
  cases same : read command argument with
  | help => exact absurd (about_of_read same) noHelp
  | flag occurrence => exact absurd (about_of_read same) (noOption _ _)
  | attached option value =>
    obtain ⟨_, takes, carried⟩ := about_of_read same
    exact absurd (.attached takes carried (means_ofValue option value)) (noOption _ _)
  | detached option =>
    have takes : Takes command option argument := about_of_read same
    exact absurd (.detached takes (means_ofValue option "")) (noOption _ _)
  | unknown => rfl

theorem Ends.scan (stop : Ends command arguments ending) :
    scan command arguments = ending.scan [] := by
  cases stop with
  | complete => rfl
  | help spelled =>
    rw [CommandLine.scan, read, if_pos spelled]
    rfl
  | unknown noHelp noOption =>
    rw [CommandLine.scan, read_unknown noHelp noOption]
    rfl
  | valueless takes =>
    obtain ⟨admitted, rfl⟩ := takes_iff.mp takes
    rw [CommandLine.scan, read_spelling admitted]
    rfl
  | invalid spelled => exact spelled.scan _

theorem Ends.front?_ne (stop : Ends command arguments ending) (first : Occurrence)
    (rest : List String) : front? command arguments ≠ some (.ok first, rest) := by
  intro front
  cases stop with
  | complete => contradiction
  | help spelled =>
    rw [front?, read, if_pos spelled] at front
    contradiction
  | unknown noHelp noOption =>
    rw [front?, read_unknown noHelp noOption] at front
    contradiction
  | valueless takes =>
    obtain ⟨admitted, rfl⟩ := takes_iff.mp takes
    rw [front?, read_spelling admitted] at front
    contradiction
  | invalid spelled =>
    rw [spelled.front?] at front
    cases front

theorem Ending.scan_nil_injective (same : ending.scan [] = other.scan []) : ending = other := by
  cases ending <;> cases other <;> simp_all [Ending.scan]

theorem Cut.scan (cut : Cut command arguments occurrences ending) :
    scan command arguments = ending.scan occurrences := by
  induction cut with
  | ends stop => exact stop.scan
  | @occurrence given rest first later ending spelled _ ih =>
    rw [spelled.scan, ih]
    cases ending <;> rfl

theorem Cut.unique (cut : Cut command arguments occurrences ending)
    (another : Cut command arguments others other) : occurrences = others ∧ ending = other := by
  induction cut generalizing others with
  | ends stop =>
    cases another with
    | ends stop' => exact ⟨rfl, Ending.scan_nil_injective (stop.scan.symm.trans stop'.scan)⟩
    | occurrence spelled _ => exact absurd (spelled.front? _) (stop.front?_ne _ _)
  | @occurrence given rest first later ending spelled _ ih =>
    generalize whole : given ++ rest = arguments at another
    have front := spelled.front? rest
    rw [whole] at front
    cases another with
    | ends stop => exact absurd front (stop.front?_ne _ _)
    | occurrence spelled' further =>
      -- Both occurrences are the one at the front.
      rw [spelled'.front?] at front
      cases front
      obtain ⟨rfl, rfl⟩ := ih further
      exact ⟨rfl, rfl⟩

end

/-! ## What the occurrences ask for -/

namespace Occurrence

def file? : Occurrence → Option String
  | .config file => some file
  | _ => none

def entity? : Occurrence → Option String
  | .entity name => some name
  | _ => none

def operation? : Occurrence → Option String
  | .operation name => some name
  | _ => none

def shape? : Occurrence → Option Shape
  | .shape chosen => some chosen
  | _ => none

def dialect? : Occurrence → Option DialectName
  | .dialect name => some name
  | _ => none

/-- The option that occurs, by its long spelling. -/
def option : Occurrence → String
  | .config _ => "--config"
  | .entity _ => "--entity"
  | .operation _ => "--op"
  | .shape _ => "--shape"
  | .dialect _ => "--dialect"
  | .bulkLoad => "--bulk-load"
  | .verbose => "--verbose"

end Occurrence

def lastValue? {α : Type} (value? : Occurrence → Option α) (occurrences : List Occurrence) :
    Option α :=
  (occurrences.filterMap value?).getLast?

theorem lastValue?_concat {α : Type} (value? : Occurrence → Option α)
    (occurrences : List Occurrence) (last : Occurrence) :
    lastValue? value? (occurrences ++ [last]) = (value? last).or (lastValue? value? occurrences) := by
  unfold lastValue?
  rw [List.filterMap_append, List.getLast?_append]
  cases same : value? last <;> simp [same]

namespace Chosen

theorem ofOccurrences_concat (occurrences : List Occurrence) (last : Occurrence) :
    ofOccurrences (occurrences ++ [last]) = (ofOccurrences occurrences).put last := by
  rw [ofOccurrences, List.foldl_append]
  rfl

theorem ofOccurrences_eq (occurrences : List Occurrence) :
    ofOccurrences occurrences =
      { config := (lastValue? Occurrence.file? occurrences).getD defaultConfig
        entity := lastValue? Occurrence.entity? occurrences
        operation := lastValue? Occurrence.operation? occurrences
        shape := (lastValue? Occurrence.shape? occurrences).getD .single
        dialect := lastValue? Occurrence.dialect? occurrences
        bulkLoad := decide (.bulkLoad ∈ occurrences)
        verbose := decide (.verbose ∈ occurrences) } := by
  induction occurrences using List.reverseRecOn with
  | nil => rfl
  | append_singleton occurrences last ih =>
    rw [ofOccurrences_concat, ih]
    simp only [lastValue?_concat, List.mem_append, List.mem_singleton]
    cases last <;> simp [put, Occurrence.file?, Occurrence.entity?, Occurrence.operation?,
      Occurrence.shape?, Occurrence.dialect?]

theorem put_comm (c : Chosen) {first second : Occurrence}
    (different : first.option ≠ second.option) :
    (c.put first).put second = (c.put second).put first := by
  cases first <;> cases second <;> first | rfl | exact absurd rfl different

theorem ofOccurrences_swap {first second : Occurrence} (different : first.option ≠ second.option)
    (early late : List Occurrence) :
    ofOccurrences (early ++ first :: second :: late) =
      ofOccurrences (early ++ second :: first :: late) := by
  simp only [ofOccurrences, List.foldl_append, List.foldl_cons, put_comm _ different]

end Chosen

def Ending.answer (command : Command) (occurrences : List Occurrence) :
    Ending → Except UsageFault Invocation
  | .help => .ok (.help (some command))
  | .malformed fault => .error fault
  | .complete =>
    let config := (lastValue? Occurrence.file? occurrences).getD "entsql.toml"
    let dialect := lastValue? Occurrence.dialect? occurrences
    let verbose := decide (.verbose ∈ occurrences)
    match command with
    | .check => .ok (.check { config, dialect, verbose })
    | .compile =>
      match lastValue? Occurrence.entity? occurrences,
        lastValue? Occurrence.operation? occurrences with
      | none, _ => .error .missingEntity
      | some _, none => .error .missingOperation
      | some entity, some operation =>
        .ok (.compile {
          config, entity, operation
          shape := (lastValue? Occurrence.shape? occurrences).getD .single
          bulkLoad := decide (.bulkLoad ∈ occurrences)
          dialect, verbose })

namespace Invocation

theorem ofScan_ending (command : Command) (occurrences : List Occurrence) (ending : Ending) :
    ofScan command (ending.scan occurrences) = ending.answer command occurrences := by
  cases ending with
  | help | malformed => rfl
  | complete =>
    rw [Ending.scan, ofScan, Chosen.ofOccurrences_eq]
    cases command with
    | check => rfl
    | compile =>
      unfold Ending.answer
      cases lastValue? Occurrence.entity? occurrences <;>
        cases lastValue? Occurrence.operation? occurrences <;> rfl

theorem ofScan_swap (command : Command) {first second : Occurrence}
    (different : first.option ≠ second.option) (before rest : Scan) :
    ofScan command (before.followedBy (.after (.ok first) (.after (.ok second) rest))) =
      ofScan command (before.followedBy (.after (.ok second) (.after (.ok first) rest))) := by
  cases before with
  | help | malformed => rfl
  | complete early =>
    cases rest with
    | help | malformed => rfl
    | complete late =>
      exact congrArg (ofChosen · command) (Chosen.ofOccurrences_swap different early late)

/-- The arguments of a command are cut from the left in exactly one way, and the cut decides what they
ask for: the first thing that ends the occurrences decides alone, and with no such thing the last
occurrence of each option does. So the order of two occurrences in a row matters for one option only. -/
theorem parse_occurrences (command : Command) :
    (∀ arguments, ∃! cut : List Occurrence × Ending, Cut command arguments cut.1 cut.2) ∧
    (∀ arguments occurrences ending, Cut command arguments occurrences ending →
      parse (command.spelling :: arguments) = ending.answer command occurrences) ∧
    ∀ before occurrences ending, Cut command before occurrences ending →
      (∀ option, ending ≠ .malformed (.missingValue option)) →
      ∀ given given' first second, Spells command given (.ok first) →
        Spells command given' (.ok second) → first.option ≠ second.option →
        ∀ rest, parse (command.spelling :: (before ++ (given ++ (given' ++ rest)))) =
          parse (command.spelling :: (before ++ (given' ++ (given ++ rest)))) := by
  refine ⟨fun arguments => ?_, fun arguments occurrences ending cut => ?_, ?_⟩
  · obtain ⟨occurrences, ending, cut⟩ := exists_cut command arguments
    refine ⟨(occurrences, ending), cut, fun other another => ?_⟩
    obtain ⟨rfl, rfl⟩ := cut.unique another
    rfl
  · rw [parse_spelling, cut.scan, ofScan_ending]
  · intro before occurrences ending cut notValueless given given' first second spelled spelled'
      different rest
    have whole : (scan command before).isCutShort = false := by
      rw [cut.scan]
      cases ending with
      | help | complete => rfl
      | malformed fault =>
        cases fault with
        | missingValue option => exact absurd rfl (notValueless option)
        | _ => rfl
    rw [parse_spelling, parse_spelling, scan_append _ whole, scan_append _ whole, spelled.scan,
      spelled'.scan, spelled'.scan, spelled.scan, ofScan_swap command different]

theorem values_like_options :
    Spells .compile ["--op", "--help"] (.ok (.operation "--help")) ∧
      Spells .compile ["--entity=--entity=Order"] (.ok (.entity "Order")) ∧
      parse ["compile", "-v", "--op", "--help", "--entity=--entity=Order", "--dialect", " PG ",
          "--shape", "collection", "--config", "--op", "--op", "Exists"] =
        .ok (.compile {
          config := "--op", entity := "Order", operation := "Exists"
          shape := .collection, bulkLoad := false, dialect := some .postgres, verbose := true }) ∧
      parse ["compile", "-v", "--entity=--entity=Order", "--op", "--help", "--op", "Exists"] =
        parse ["compile", "-v", "--op", "--help", "--entity=--entity=Order", "--op", "Exists"] ∧
      parse ["compile", "-v", "--shape", "many", "--help"] = .error (.unknownShape "many") ∧
      parse ["check", "--dialect", "Oracle", "--help"] =
        .error (.unknownDialect (.invalidArgument (.unknownDialect "oracle"))) ∧
      parse ["check", "--entity", "Order"] = .error (.unknownArgument "--entity") := by
  have verbose : Spells .compile ["-v"] (.ok .verbose) := .verbose (.inl rfl)
  have operation : Spells .compile ["--op", "--help"] (.ok (.operation "--help")) :=
    .detached .operation (.operation "--help")
  have carried : Carries "--entity" "--entity=--entity=Order" "Order" :=
    ⟨⟨1, by decide⟩, by decide⟩
  have entity : Spells .compile ["--entity=--entity=Order"] (.ok (.entity "Order")) :=
    .attached .entity carried (.entity "Order")
  have postgres : Spells .compile ["--dialect", " PG "] (.ok (.dialect .postgres)) :=
    .detached (.dialect _) (.dialect (Text.plain_iff.mpr (by decide : "pg" = _)) (by decide))
  have collection : Spells .compile ["--shape", "collection"] (.ok (.shape .collection)) :=
    .detached .shape .collection
  have file : Spells .compile ["--config", "--op"] (.ok (.config "--op")) :=
    .detached (.config _) (.config "--op")
  have operation' : Spells .compile ["--op", "Exists"] (.ok (.operation "Exists")) :=
    .detached .operation (.operation "Exists")
  have many : Spells .compile ["--shape", "many"] (.error (.unknownShape "many")) :=
    .detached .shape (.noShape (by decide) (by decide))
  have oracle : Spells .check ["--dialect", "Oracle"]
      (.error (.unknownDialect (.invalidArgument (.unknownDialect "oracle")))) :=
    .detached (.dialect _) (.noDialect (Text.plain_iff.mpr (by decide)) (by rintro ⟨⟩ <;> decide))
  obtain ⟨_, answered, swapped⟩ := parse_occurrences .compile
  obtain ⟨_, answered', _⟩ := parse_occurrences .check
  refine ⟨operation, entity, ?_, ?_, ?_, ?_, ?_⟩
  · exact answered _ _ _ (.occurrence verbose (.occurrence operation (.occurrence entity
      (.occurrence postgres (.occurrence collection (.occurrence file (.occurrence operation'
        (.ends .complete))))))))
  · exact swapped ["-v"] _ _ (.occurrence verbose (.ends .complete)) (fun option => nofun) _ _ _ _
      entity operation (by decide) ["--op", "Exists"]
  · exact answered _ _ _ (.occurrence verbose (.ends (@Ends.invalid _ _ ["--help"] _ many)))
  · exact answered' _ _ _ (.ends (@Ends.invalid _ _ ["--help"] _ oracle))
  · exact answered' _ _ _ (.ends (.unknown (by decide) (fun _ _ => not_spells_of_unknown rfl _)))

end Invocation
end EntityCrud.CommandLine
