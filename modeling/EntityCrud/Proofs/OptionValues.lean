import EntityCrud.Proofs.Arguments
import EntityCrud.Proofs.Words
/-! What the options of a command say. An option has a name of its own, and its value is the argument
after it or stands behind an equals sign in the argument itself. Names of files, entities and operations
are values as they stand; a shape is one of two words; a dialect is one of six words, in any case of
letters and with white space around it. -/
namespace EntityCrud.CommandLine
open Sql (DialectName)

/-! ## The value of an attached option -/

section
variable {lead text : List Char}

theorem dropCopies_replicate (nonempty : lead ≠ []) (copies : Nat) (plain : ¬ lead <+: text) :
    dropCopies lead ((List.replicate copies lead).flatten ++ text) = text := by
  induction copies with
  | zero => exact dropCopies_eq_self plain
  | succ copies ih =>
    rw [List.replicate_succ, List.flatten_cons, List.append_assoc, dropCopies_append nonempty, ih]

theorem exists_copies (nonempty : lead ≠ []) (text : List Char) :
    ∃ copies, text = (List.replicate copies lead).flatten ++ dropCopies lead text ∧
      ¬ lead <+: dropCopies lead text := by
  fun_induction dropCopies lead text with
  | case1 text front ih =>
    obtain ⟨copies, same, plain⟩ := ih
    refine ⟨copies + 1, ?_, plain⟩
    rw [List.replicate_succ, List.flatten_cons, List.append_assoc, ← same]
    nth_rewrite 1 [← front.2]
    exact (List.take_append_drop _ _).symm
  | case2 text other =>
    refine ⟨0, rfl, fun begins => other ⟨nonempty, ?_⟩⟩
    exact (List.prefix_iff_eq_take.mp begins).symm

end

/-- The argument is `option=` and the value, or has more copies of `option=` in front of a value that
does not begin with one itself. -/
def Carries (spelling argument value : String) : Prop :=
  let lead := spelling.toList ++ ['=']
  (∃ copies, argument.toList = (List.replicate (copies + 1) lead).flatten ++ value.toList) ∧
    ¬ lead <+: value.toList

namespace Carries
variable {option : OptionName} {argument value : String}

theorem exists_attach (carried : Carries option.spelling argument value) :
    ∃ text, argument = option.attach text ∧ carriedValue option text = value := by
  obtain ⟨⟨copies, same⟩, plain⟩ := carried
  change argument.toList = (List.replicate (copies + 1) option.lead).flatten ++ value.toList at same
  refine ⟨String.ofList ((List.replicate copies option.lead).flatten ++ value.toList), ?_, ?_⟩
  · rw [← String.toList_inj, OptionName.toList_attach, String.toList_ofList, same,
      List.replicate_succ, List.flatten_cons, List.append_assoc]
  · rw [carriedValue, String.toList_ofList, dropCopies_replicate option.lead_ne_nil copies plain,
      String.ofList_toList]

theorem of_attachedValue? (carried : attachedValue? option argument = some value) :
    Carries option.spelling argument value := by
  have begins := lead_of_attachedValue? carried
  rw [attachedValue?_eq, if_pos begins, Option.some.injEq] at carried
  obtain ⟨copies, same, plain⟩ := exists_copies option.lead_ne_nil argument.toList
  subst carried
  unfold Carries carriedValue
  rw [String.toList_ofList]
  refine ⟨?_, plain⟩
  cases copies with
  | zero =>
    -- Without a copy at the front nothing would have been attached.
    rw [List.replicate_zero, List.flatten_nil, List.nil_append] at same
    rw [← same] at plain
    contradiction
  | succ copies => exact ⟨copies, same⟩

end Carries

/-! ## The options and their values -/

/-- A command has the option, and this is how it is written. -/
inductive Takes : Command → OptionName → String → Prop
  | config (command : Command) : Takes command .config "--config"
  | dialect (command : Command) : Takes command .dialect "--dialect"
  | entity : Takes .compile .entity "--entity"
  | operation : Takes .compile .operation "--op"
  | shape : Takes .compile .shape "--shape"

theorem takes_iff {command : Command} {option : OptionName} {spelling : String} :
    Takes command option spelling ↔
      option.admittedBy command = true ∧ spelling = option.spelling := by
  constructor
  · intro takes
    cases takes with
    | config | dialect => cases command <;> exact ⟨rfl, rfl⟩
    | entity | operation | shape => exact ⟨rfl, rfl⟩
  · rintro ⟨admitted, rfl⟩
    cases command <;> cases option <;> first | contradiction | constructor

/-- What an option with a value says. -/
inductive Means : OptionName → String → Except UsageFault Occurrence → Prop
  | config (file : String) : Means .config file (.ok (.config file))
  | entity (name : String) : Means .entity name (.ok (.entity name))
  | operation (name : String) : Means .operation name (.ok (.operation name))
  | single : Means .shape "single" (.ok (.shape .single))
  | collection : Means .shape "collection" (.ok (.shape .collection))
  | noShape {value : String} (notSingle : value ≠ "single") (notCollection : value ≠ "collection") :
      Means .shape value (.error (.unknownShape value))
  | dialect {value word : String} {name : DialectName} (plain : Text.Plain value word)
      (listed : word ∈ DialectName.words name) : Means .dialect value (.ok (.dialect name))
  | noDialect {value word : String} (plain : Text.Plain value word)
      (unlisted : ∀ name, word ∉ DialectName.words name) :
      Means .dialect value (.error (.unknownDialect (.invalidArgument (.unknownDialect word))))

namespace Occurrence

theorem ofValue_shape (value : String) : ofValue .shape value =
    if value = "single" then .ok (.shape .single)
    else if value = "collection" then .ok (.shape .collection)
    else .error (.unknownShape value) := rfl

theorem ofValue_dialect {value word : String} (plain : Text.Plain value word) :
    ofValue .dialect value =
      match DialectName.ofTag? word with
      | some name => .ok (.dialect name)
      | none => .error (.unknownDialect (.invalidArgument (.unknownDialect word))) := by
  rw [ofValue, DialectName.parse, ← Text.plain_iff.mp plain]
  cases DialectName.ofTag? word <;> rfl

end Occurrence

theorem means_ofValue (option : OptionName) (value : String) :
    Means option value (Occurrence.ofValue option value) := by
  cases option with
  | config => exact .config value
  | entity => exact .entity value
  | operation => exact .operation value
  | shape =>
    rw [Occurrence.ofValue_shape]
    split_ifs with single collection
    · exact single ▸ .single
    · exact collection ▸ .collection
    · exact .noShape single collection
  | dialect =>
    have plain : Text.Plain value _ := Text.plain_iff.mpr rfl
    rw [Occurrence.ofValue_dialect plain]
    split
    · rename_i name found
      exact .dialect plain (DialectName.ofTag?_eq_some_iff.mp found)
    · rename_i missing
      refine .noDialect plain fun name listed => ?_
      rw [DialectName.ofTag?_eq_some_iff.mpr listed] at missing
      contradiction

theorem Means.eq_ofValue {option : OptionName} {value : String} {said : Except UsageFault Occurrence}
    (means : Means option value said) : said = Occurrence.ofValue option value := by
  cases means with
  | config | entity | operation | single | collection => rfl
  | noShape notSingle notCollection =>
    rw [Occurrence.ofValue_shape, if_neg notSingle, if_neg notCollection]
  | dialect plain listed =>
    rw [Occurrence.ofValue_dialect plain, DialectName.ofTag?_eq_some_iff.mpr listed]
  | @noDialect _ word plain unlisted =>
    have missing : DialectName.ofTag? word = none :=
      Option.eq_none_iff_forall_ne_some.mpr fun name found =>
        unlisted name (DialectName.ofTag?_eq_some_iff.mp found)
    rw [Occurrence.ofValue_dialect plain, missing]

end EntityCrud.CommandLine
