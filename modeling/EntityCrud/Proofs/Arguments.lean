import EntityCrud.CommandLine.Arguments
import Mathlib.Data.List.Infix
/-! The arguments of a command. A scan goes on where the arguments before have been read in full, and
an option means the same with its value attached and with its value as the next argument, unless the
value itself begins like the option with a value attached. -/
namespace EntityCrud.CommandLine

namespace Scan

/-- The option at the end has no value yet. -/
def isCutShort : Scan → Bool
  | .malformed (.missingValue _) => true
  | _ => false

/-- What a scan and the scan of the arguments after it come to together. -/
def followedBy : Scan → Scan → Scan
  | .complete early, .complete late => .complete (early ++ late)
  | .complete _, stopped => stopped
  | stopped, _ => stopped

theorem complete_nil_followedBy (s : Scan) : (complete []).followedBy s = s := by
  cases s <;> rfl

theorem after_followedBy (first : Except UsageFault Occurrence) (early late : Scan) :
    (after first early).followedBy late = after first (early.followedBy late) := by
  cases first with
  | error fault => rfl
  | ok occurrence => cases early <;> cases late <;> rfl

theorem isCutShort_after_ok (occurrence : Occurrence) (rest : Scan) :
    (after (.ok occurrence) rest).isCutShort = rest.isCutShort := by
  cases rest <;> rfl

theorem after_append {first : Except UsageFault Occurrence} {rest late joined : Scan}
    (whole : (after first rest).isCutShort = false)
    (step : rest.isCutShort = false → joined = rest.followedBy late) :
    after first joined = (after first rest).followedBy late := by
  cases first with
  | error fault => rfl
  | ok occurrence =>
    rw [isCutShort_after_ok] at whole
    rw [after_followedBy, step whole]

end Scan

section
variable {command : Command}

/-- A scan of arguments that are read in full is continued by the scan of the arguments after them;
the first thing that ends either of them ends the whole. -/
theorem scan_append {before : List String} (after : List String)
    (whole : (scan command before).isCutShort = false) :
    scan command (before ++ after) = (scan command before).followedBy (scan command after) := by
  -- The scan takes one argument or two at a time, and so does the induction.
  fun_induction scan command before with
  | case1 => exact (Scan.complete_nil_followedBy _).symm
  | case2 argument rest help =>
    rw [List.cons_append, scan, help]
    rfl
  | case3 argument rest occurrence flag ih =>
    rw [List.cons_append, scan, flag]
    exact Scan.after_append whole ih
  | case4 argument rest option value attached ih =>
    rw [List.cons_append, scan, attached]
    exact Scan.after_append whole ih
  | case5 argument option detached =>
    -- The first of the arguments after it would be the value of this option.
    contradiction
  | case6 argument option detached value rest ih =>
    rw [List.cons_append, List.cons_append, scan, detached]
    exact Scan.after_append whole ih
  | case7 argument rest unknown =>
    rw [List.cons_append, scan, unknown]
    rfl

end

section
variable {lead text : List Char}

theorem dropCopies_eq_self (other : ¬ lead <+: text) : dropCopies lead text = text := by
  rw [dropCopies, dif_neg]
  rintro ⟨_, front⟩
  exact other (List.prefix_iff_eq_take.mpr front.symm)

theorem dropCopies_append (nonempty : lead ≠ []) (text : List Char) :
    dropCopies lead (lead ++ text) = dropCopies lead text := by
  rw [dropCopies, dif_pos ⟨nonempty, List.take_left⟩, List.drop_left]

end

namespace OptionName

/-- The option and its value in one argument. -/
def attach (option : OptionName) (value : String) : String := option.spelling ++ "=" ++ value

def lead (option : OptionName) : List Char := option.spelling.toList ++ ['=']

theorem toList_attach (option : OptionName) (value : String) :
    (option.attach value).toList = option.lead ++ value.toList := by
  simp [attach, lead]

theorem lead_ne_nil (option : OptionName) : option.lead ≠ [] := by
  simp [lead]

theorem eq_of_lead_front {option other : OptionName} (begins : other.lead <+: option.lead) :
    other = option := by
  revert begins
  cases option <;> cases other <;> decide

/-- No text begins like two options with a value attached. -/
theorem eq_of_leads {option other : OptionName} {text : List Char}
    (first : option.lead <+: text) (second : other.lead <+: text) : other = option := by
  rcases List.prefix_or_prefix_of_prefix first second with shorter | longer
  · exact (eq_of_lead_front shorter).symm
  · exact eq_of_lead_front longer

theorem equals_sign_not_mem_spelling (option : OptionName) : '=' ∉ option.spelling.toList := by
  cases option <;> decide

theorem attach_ne {option : OptionName} {value argument : String}
    (bare : '=' ∉ argument.toList) : option.attach value ≠ argument := by
  intro same
  apply bare
  rw [← same, toList_attach]
  simp [lead]

end OptionName

/-- What a text that is attached to an option comes to: copies of `option=` at its front do not
count. -/
def carriedValue (option : OptionName) (value : String) : String :=
  String.ofList (dropCopies option.lead value.toList)

theorem attachedValue?_eq (option : OptionName) (argument : String) :
    attachedValue? option argument =
      if option.lead <+: argument.toList then some (carriedValue option argument) else none := by
  simp only [← List.isPrefixOf_iff_prefix]
  rfl

theorem lead_of_attachedValue? {option : OptionName} {argument value : String}
    (carried : attachedValue? option argument = some value) : option.lead <+: argument.toList := by
  by_contra bare
  rw [attachedValue?_eq, if_neg bare] at carried
  contradiction

theorem carriedValue_attach (option : OptionName) (value : String) :
    carriedValue option (option.attach value) = carriedValue option value := by
  unfold carriedValue
  rw [OptionName.toList_attach, dropCopies_append option.lead_ne_nil]

theorem carriedValue_eq_self {option : OptionName} {value : String}
    (plain : ∀ rest, value ≠ option.attach rest) : carriedValue option value = value := by
  unfold carriedValue
  rw [dropCopies_eq_self, String.ofList_toList]
  rintro ⟨rest, same⟩
  apply plain (String.ofList rest)
  rw [← String.toList_inj, OptionName.toList_attach, String.toList_ofList, same]

/-- Where one member alone is a hit, the first hit is that one. -/
theorem findSome?_eq_some_of_only {α β : Type} {f : α → Option β} {members : List α} {a : α} {b : β}
    (listed : a ∈ members) (hit : f a = some b)
    (only : ∀ other found, f other = some found → other = a) : members.findSome? f = some b := by
  have found : (members.findSome? f).isSome = true :=
    List.findSome?_isSome_iff.mpr ⟨a, listed, by rw [hit]; rfl⟩
  obtain ⟨result, first⟩ := Option.isSome_iff_exists.mp found
  obtain ⟨other, _, same⟩ := List.exists_of_findSome?_eq_some first
  obtain rfl := only other result same
  rw [first, ← same, hit]

section
variable {command : Command} {option : OptionName} (admitted : option.admittedBy command = true)
include admitted

theorem mem_admitted : option ∈ OptionName.all.filter (OptionName.admittedBy command) := by
  refine List.mem_filter.mpr ⟨?_, admitted⟩
  cases option <;> decide

theorem read_spelling : read command option.spelling = .detached option := by
  cases command <;> cases option <;> first | rfl | contradiction

/-- Of all options an argument with an attached value is read as the one that it spells. -/
theorem read_attach (value : String) :
    read command (option.attach value) = .attached option (carriedValue option value) := by
  let options := OptionName.all.filter (OptionName.admittedBy command)
  let carried (other : OptionName) := (attachedValue? other (option.attach value)).map (other, ·)
  have noHelp : ¬ (option.attach value = "-h" ∨ option.attach value = "--help") :=
    not_or.mpr ⟨OptionName.attach_ne (by decide), OptionName.attach_ne (by decide)⟩
  have notDetached : (options.find? fun other => other.spelling == option.attach value) = none := by
    rw [List.find?_eq_none]
    intro other _ same
    exact OptionName.attach_ne other.equals_sign_not_mem_spelling (eq_of_beq same).symm
  have begins : option.lead <+: (option.attach value).toList := by
    rw [OptionName.toList_attach]
    exact List.prefix_append _ _
  have attached : options.findSome? carried = some (option, carriedValue option value) := by
    apply findSome?_eq_some_of_only (mem_admitted admitted)
    · simp only [carried, attachedValue?_eq, if_pos begins, carriedValue_attach, Option.map_some]
    · intro other _ spelled
      obtain ⟨_, attached, _⟩ := Option.map_eq_some_iff.mp spelled
      exact OptionName.eq_of_leads begins (lead_of_attachedValue? attached)
  unfold read
  rw [if_neg noHelp, notDetached, attached]

/-- An attached value counts like what it carries would as the next argument. -/
theorem scan_attach (value : String) (after : List String) :
    scan command (option.attach value :: after) =
      scan command (option.spelling :: carriedValue option value :: after) := by
  rw [scan, scan, read_attach admitted, read_spelling admitted]

end

def Command.spelling : Command → String
  | .compile => "compile"
  | .check => "check"

namespace Invocation

theorem parse_spelling (command : Command) (arguments : List String) :
    parse (command.spelling :: arguments) = ofScan command (scan command arguments) := by
  cases command <;> rfl

theorem parse_append_congr {command : Command} {before given given' : List String}
    (whole : (scan command before).isCutShort = false)
    (same : scan command given = scan command given') :
    parse (command.spelling :: (before ++ given)) =
      parse (command.spelling :: (before ++ given')) := by
  rw [parse_spelling, parse_spelling, scan_append given whole, scan_append given' whole, same]

/-- An option with its value attached is read like the option with its value as the next argument,
whatever has been read in full before it and whatever stands after it, unless the value itself begins
like the option with a value attached. Of such a value only the inner value counts. -/
theorem parse_attach {command : Command} {option : OptionName} {before : List String}
    (admitted : option.admittedBy command = true)
    (whole : (scan command before).isCutShort = false) (after : List String) :
    let parseWith (given : List String) := parse (command.spelling :: (before ++ (given ++ after)))
    (∀ value, (∀ rest, value ≠ option.attach rest) →
      parseWith [option.attach value] = parseWith [option.spelling, value]) ∧
    ∀ value, parseWith [option.attach (option.attach value)] = parseWith [option.attach value] := by
  constructor
  · intro value plain
    apply parse_append_congr whole
    have attached := scan_attach admitted value after
    rwa [carriedValue_eq_self plain] at attached
  · intro value
    apply parse_append_congr whole
    have outer := scan_attach admitted (option.attach value) after
    rw [carriedValue_attach] at outer
    exact outer.trans (scan_attach admitted value after).symm

theorem entity_attached_with_equals_sign :
    OptionName.entity.admittedBy .compile = true ∧
      (scan .compile ["-v", "--op", "--entity=Order"]).isCutShort = false ∧
      (∀ rest, "a=b" ≠ OptionName.entity.attach rest) ∧
      parse ["compile", "-v", "--op", "--entity=Order", "--entity=a=b", "--bulk-load"] =
        .ok (.compile {
          config := "entsql.toml", entity := "a=b", operation := "--entity=Order"
          shape := .single, bulkLoad := true, dialect := none, verbose := true }) := by
  have admitted : OptionName.entity.admittedBy .compile = true := rfl
  have whole : (scan .compile ["-v", "--op", "--entity=Order"]).isCutShort = false := by decide
  have plain : ∀ rest, "a=b" ≠ OptionName.entity.attach rest := by
    intro rest same
    have begins := congrArg (fun s => s.toList.head?) same
    simp [OptionName.toList_attach, OptionName.lead, OptionName.spelling] at begins
  have attached : OptionName.entity.attach "a=b" = "--entity=a=b" := by decide
  have like := (parse_attach admitted whole ["--bulk-load"]).1 "a=b" plain
  rw [attached] at like
  exact ⟨admitted, whole, plain, like.trans rfl⟩

/-- The two spellings name two files where the value begins like the option itself. -/
theorem attached_copy_dropped :
    parse ["check", "--config=--config=shop.toml"] ≠
      parse ["check", "--config", "--config=shop.toml"] := by
  have attached : parse ["check", "--config=--config=shop.toml"] =
    .ok (.check { config := "shop.toml", dialect := none, verbose := false }) := by cbv
  have detached : parse ["check", "--config", "--config=shop.toml"] =
    .ok (.check { config := "--config=shop.toml", dialect := none, verbose := false }) := by cbv
  rw [attached, detached]
  decide

end Invocation
end EntityCrud.CommandLine
