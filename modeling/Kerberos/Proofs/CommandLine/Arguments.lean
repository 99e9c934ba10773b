import Kerberos.CommandLine.Grammar
import Kerberos.Proofs.Entries

/-!
# Options and operands in any order

The words after a command are options with their values and operands, which may be mixed. A value is
attached to its option or is a word of its own. Whatever order and form were chosen, the same options
and operands are read: `read_flatMap_words`.
-/

namespace Kerberos
namespace CommandLine

/-! ## Words -/

/-- A text that does not start with a hyphen is an operand or a value. -/
theorem Word.ofText_of_head? {text : String} (h : text.toList.head? ≠ some '-') :
    Word.ofText text = .plain text := by
  cases htext : text.toList with
  | nil => simp only [ofText, htext]
  | cons c rest =>
    have hc : c ≠ '-' := by
      intro hhyphen
      rw [htext, hhyphen] at h
      exact h rfl
    simp [ofText, htext, hc]

/-- A part of a command line after its command. -/
inductive Argument
  /-- An option with its value in one word. -/
  | attached (name value : String)
  /-- An option with its value in the next word. -/
  | separate (name value : String)
  | operand (text : String)

namespace Argument

def words : Argument → List String
  | attached name value => ["--" ++ name ++ "=" ++ value]
  | separate name value => ["--" ++ name, value]
  | operand text => [text]

def option? : Argument → Option (String × String)
  | attached name value => some (name, value)
  | separate name value => some (name, value)
  | operand _ => none

def operand? : Argument → Option String
  | operand text => some text
  | _ => none

theorem operand?_eq_none {a : Argument} {option : String × String}
    (h : a.option? = some option) : a.operand? = none := by
  cases a with
  | attached name value => rfl
  | separate name value => rfl
  | operand text => cases h

theorem exists_operand {a : Argument} (h : a.option? = none) : ∃ text, a = operand text := by
  cases a with
  | attached name value => cases h
  | separate name value => cases h
  | operand text => exact ⟨text, rfl⟩

end Argument

/-! ## Options by name -/

section Names

variable {name : List Char}

theorem ne_equals (h : '=' ∉ name) : ∀ c ∈ name, decide (c ≠ '=') = true := by
  intro c hc
  apply decide_eq_true
  rintro rfl
  exact h hc

theorem splitOption_append (h : '=' ∉ name) (value : List Char) :
    splitOption (name ++ '=' :: value) = (String.ofList name, some (String.ofList value)) := by
  have hname : (name ++ '=' :: value).takeWhile (· ≠ '=') = name := by
    rw [List.takeWhile_append_of_pos (ne_equals h)]
    simp
  have hvalue : (name ++ '=' :: value).dropWhile (· ≠ '=') = '=' :: value := by
    rw [List.dropWhile_append_of_pos (ne_equals h)]
    simp
  simp only [splitOption, hname, hvalue]

theorem splitOption_of_not_mem (h : '=' ∉ name) :
    splitOption name = (String.ofList name, none) := by
  have hname : (name ++ []).takeWhile (· ≠ '=') = name ++ [] :=
    List.takeWhile_append_of_pos (ne_equals h)
  have hvalue : (name ++ []).dropWhile (· ≠ '=') = [] :=
    List.dropWhile_append_of_pos (ne_equals h)
  rw [List.append_nil] at hname hvalue
  simp only [splitOption, hname, hvalue]

end Names

namespace Word

theorem ofText_hyphens {text : String} {cs : List Char} (htext : text.toList = '-' :: '-' :: cs)
    (hcs : cs ≠ []) : ofText text = .long (splitOption cs).1 (splitOption cs).2 := by
  cases cs with
  | nil => exact absurd rfl hcs
  | cons c rest => simp only [ofText, htext]

theorem ofText_attached {name : String} (h : '=' ∉ name.toList) (value : String) :
    ofText ("--" ++ name ++ "=" ++ value) = .long name (some value) := by
  have htext : ("--" ++ name ++ "=" ++ value).toList =
      '-' :: '-' :: (name.toList ++ '=' :: value.toList) := by
    simp
  rw [ofText_hyphens htext (by simp), splitOption_append h, String.ofList_toList,
    String.ofList_toList]

theorem ofText_separate {name : String} (h : '=' ∉ name.toList) (hname : name ≠ "") :
    ofText ("--" ++ name) = .long name none := by
  have htext : ("--" ++ name).toList = '-' :: '-' :: name.toList := by
    simp
  have hcs : name.toList ≠ [] := by
    intro hnil
    exact hname (String.toList_eq_nil_iff.1 hnil)
  rw [ofText_hyphens htext hcs, splitOption_of_not_mem h, String.ofList_toList]

end Word

/-! ## Reading them -/

namespace Reading

variable {r : Reading}

theorem has_eq_false {name : String} (h : name ∉ r.options.map (·.1)) : r.has name = false := by
  rw [has, List.any_eq_false]
  intro option hoption hname
  exact h (List.mem_map.2 ⟨option, hoption, eq_of_beq hname⟩)

theorem value?_eq_lookup (r : Reading) (name : String) :
    r.value? name = r.options.lookup name :=
  Entries.find?_map_eq_lookup r.options name

end Reading

namespace Grammar

variable {g : Grammar} {r : Reading}

/-- Whether a grammar has an option that takes a value, in both forms of an argument. -/
structure Takes (g : Grammar) (name value : String) : Prop where
  no_equals : '=' ∉ name.toList
  not_empty : name ≠ ""
  accepted : ∃ accepts, g.kind? name = some (.value accepts) ∧ accepts value = true
  plain : Word.ofText value = .plain value

theorem readOption_eq {name value : String} {accepts : String → Bool}
    (hfresh : name ∉ r.options.map (·.1)) (haccepts : accepts value = true) :
    readOption r name value accepts = .ok (r.withOption name value) := by
  simp [readOption, Reading.has_eq_false hfresh, haccepts]

/-- An option is read with its value, in one word or in two. -/
theorem read_option {a : Argument} {name value : String} (ha : a.option? = some (name, value))
    (h : g.Takes name value) (hfresh : name ∉ r.options.map (·.1)) (rest : List String) :
    g.read r (a.words ++ rest) = g.read (r.withOption name value) rest := by
  rcases h.accepted with ⟨accepts, hkind, haccepts⟩
  cases a with
  | attached name' value' =>
    cases ha
    rw [Argument.words, List.cons_append, List.nil_append, read]
    simp only [Word.ofText_attached h.no_equals, hkind, readOption_eq hfresh haccepts]
    rfl
  | separate name' value' =>
    cases ha
    rw [Argument.words, List.cons_append, List.cons_append, List.nil_append, read]
    simp only [Word.ofText_separate h.no_equals h.not_empty, hkind, h.plain,
      readOption_eq hfresh haccepts]
    rfl
  | operand text => cases ha

theorem read_operand {text : String} (hplain : Word.ofText text = .plain text)
    (hsub : g.subcommands.contains text = false) (hroom : r.operands.length < g.operands)
    (rest : List String) :
    g.read r ((Argument.operand text).words ++ rest) = g.read (r.withOperand text) rest := by
  rw [Argument.words, List.cons_append, List.nil_append, read]
  simp only [hplain, hsub, readOperand, if_pos hroom]
  rfl

/-- The words behind a subcommand are left to its own grammar. -/
theorem read_subcommand {name : String} (hplain : Word.ofText name = .plain name)
    (hsub : g.subcommands.contains name = true) (r : Reading) (rest : List String) :
    g.read r (name :: rest) = .ok { r with subcommand := some (name, rest) } := by
  rw [read]
  simp only [hplain, hsub, if_true]

/-- Arguments in any order are read as their options and their operands, if no option is given
twice and there are not too many operands. -/
theorem read_flatMap_words {args : List Argument}
    (hoptions : ∀ o ∈ args.filterMap Argument.option?, g.Takes o.1 o.2)
    (hoperands : ∀ text ∈ args.filterMap Argument.operand?,
      Word.ofText text = .plain text ∧ g.subcommands.contains text = false)
    (hnames : ((r.options ++ args.filterMap Argument.option?).map (·.1)).Nodup)
    (hroom : (r.operands ++ args.filterMap Argument.operand?).length ≤ g.operands) :
    g.read r (args.flatMap Argument.words) =
      .ok { r with
        options := r.options ++ args.filterMap Argument.option?
        operands := r.operands ++ args.filterMap Argument.operand? } := by
  -- on the arguments, for what has been read of those in front of them
  induction args generalizing r with
  | nil => simp [read]
  | cons a rest ih =>
    rw [List.flatMap_cons]
    cases hoption : a.option? with
    | some option =>
      rcases option with ⟨name, value⟩
      have hoperand : a.operand? = none := Argument.operand?_eq_none hoption
      rw [List.filterMap_cons_some hoption] at hoptions hnames ⊢
      rw [List.filterMap_cons_none hoperand] at hoperands hroom ⊢
      have hfresh : name ∉ r.options.map (·.1) := by
        rw [List.map_append, List.map_cons, List.nodup_append] at hnames
        intro hmem
        exact hnames.2.2 name hmem name List.mem_cons_self rfl
      have hrest := ih (r := r.withOption name value)
        (fun o ho => hoptions o (List.mem_cons_of_mem _ ho)) hoperands
        (by simpa [Reading.withOption] using hnames) hroom
      rw [read_option hoption (hoptions _ List.mem_cons_self) hfresh, hrest]
      simp [Reading.withOption]
    | none =>
      rcases Argument.exists_operand hoption with ⟨text, rfl⟩
      rw [List.filterMap_cons_none hoption] at hoptions hnames ⊢
      have hoperand : (Argument.operand text).operand? = some text := rfl
      rw [List.filterMap_cons_some hoperand] at hoperands hroom ⊢
      have hfirst := hoperands text List.mem_cons_self
      have hlength : r.operands.length < g.operands := by
        rw [List.length_append, List.length_cons] at hroom
        omega
      have hrest := ih (r := r.withOperand text) hoptions
        (fun t ht => hoperands t (List.mem_cons_of_mem _ ht)) hnames
        (by simpa [Reading.withOperand] using hroom)
      rw [read_operand hfirst.1 hfirst.2 hlength, hrest]
      simp [Reading.withOperand]

end Grammar

/-- Whether some words are a command with options and operands, in any order and form. -/
def Writes (command : String) (options : List (String × String)) (operands words : List String) :
    Prop :=
  ∃ args : List Argument, (args.filterMap Argument.option?).Perm options ∧
    args.filterMap Argument.operand? = operands ∧
    words = command :: args.flatMap Argument.words

end CommandLine
end Kerberos
