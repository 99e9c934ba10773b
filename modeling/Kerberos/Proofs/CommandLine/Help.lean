import Kerberos.CommandLine.Run
import Kerberos.Proofs.CommandLine.Arguments

/-!
# Help with subcommands

The page of a subcommand shows the options and operands that are read behind it, and those options
as required without which there is no command. It is printed wherever help is asked for behind words
that are understood: `run_asking_for_help`.
-/

namespace Kerberos
namespace CommandLine

/-! ## What the pages show -/

def OptionKind.takesValue : OptionKind → Bool
  | flag => false
  | value _ => true

/-- The options that a grammar need not list, as they never lead to a command. -/
def Grammar.builtinNames (g : Grammar) : List String :=
  if g.hasVersion then ["help", "version"] else ["help"]

/-- Whether a page shows what a grammar reads: its options, with a value where they take one, as
many operands, and its subcommands. -/
def Page.Shows (p : Page) (g : Grammar) : Prop :=
  (p.options.map fun o => (o.name, o.value.isSome)).Perm
      (g.options.map (fun o => (o.1, o.2.takesValue)) ++ g.builtinNames.map (·, false)) ∧
    p.operands.length = g.operands ∧ (p.commands.map (·.1)).Perm g.subcommands

instance (p : Page) (g : Grammar) : Decidable (p.Shows g) :=
  inferInstanceAs (Decidable (_ ∧ _ ∧ _))

/-- There is a page for each subcommand, which shows what its grammar reads, and so does the page
about the tool. -/
theorem pages_show :
    topPage.Shows topGrammar ∧
      ∀ s ∈ subcommands, ∃ page, subcommandPages.lookup s.1 = some page ∧ page.Shows s.2 := by
  have hpages : ∀ s ∈ subcommands, (subcommandPages.lookup s.1).isSome = true ∧
      ∀ page ∈ subcommandPages.lookup s.1, page.Shows s.2 := by
    decide
  refine ⟨by decide, ?_⟩
  intro s hs
  rcases Option.isSome_iff_exists.1 (hpages s hs).1 with ⟨page, hpage⟩
  exact ⟨page, hpage, (hpages s hs).2 page hpage⟩

/-- The names of the options that the page of a subcommand shows as required. -/
def requiredNames (name : String) : List String :=
  match subcommandPages.lookup name with
  | some page => (page.options.filter (·.required)).map (·.name)
  | none => []

theorem command?_eq_none_of_missing {s : String × Grammar} (hs : s ∈ subcommands) {r : Reading}
    {name : String} (hname : name ∈ requiredNames s.1) (hmissing : r.value? name = none) :
    command? s.1 r = none := by
  have hrequired : ∀ s ∈ subcommands, ∀ name ∈ requiredNames s.1,
      (s.1, name) ∈ [("pbkdf2", "salt"), ("hmac", "key"), ("encrypt", "enctype"),
        ("encrypt", "key"), ("decrypt", "enctype"), ("decrypt", "key"), ("cbc-mac", "key")] := by
    decide
  have hmem := hrequired s hs name hname
  simp only [List.mem_cons, Prod.mk.injEq, List.not_mem_nil, or_false] at hmem
  -- each command looks for its required options before anything else
  rcases hmem with ⟨hsub, rfl⟩ | ⟨hsub, rfl⟩ | ⟨hsub, rfl⟩ | ⟨hsub, rfl⟩ | ⟨hsub, rfl⟩ |
    ⟨hsub, rfl⟩ | ⟨hsub, rfl⟩ <;> simp [hsub, command?, transformRequest?, hmissing]

/-- What is read of a command line that has a value for each required option and each operand. -/
def sparseReading (s : String × Grammar) (value : String) : Reading :=
  { options := (requiredNames s.1).map (·, value)
    operands := List.replicate s.2.operands value }

theorem isSome_command?_sparseReading {s : String × Grammar} (hs : s ∈ subcommands)
    (value : String) : (command? s.1 (sparseReading s value)).isSome = true := by
  simp only [subcommands, List.mem_cons, List.not_mem_nil, or_false] at hs
  rcases hs with rfl | rfl | rfl | rfl | rfl | rfl | rfl <;> rfl

/-- The options that a page shows as required are those without which there is no command. -/
theorem mem_requiredNames_iff {s : String × Grammar} (hs : s ∈ subcommands) {name : String} :
    name ∈ requiredNames s.1 ↔ ∀ r, r.value? name = none → command? s.1 r = none := by
  constructor
  · intro hname r hmissing
    exact command?_eq_none_of_missing hs hname hmissing
  · -- a command line with the required options alone has a command
    intro hneeded
    apply Decidable.byContradiction
    intro hname
    have hmissing : (sparseReading s "").value? name = none := by
      rw [Reading.value?_eq_lookup, Entries.lookup_eq_none_iff]
      simpa [sparseReading] using hname
    have hcommand := isSome_command?_sparseReading hs ""
    rw [hneeded _ hmissing] at hcommand
    cases hcommand

/-! ## Reading from left to right -/

theorem Word.eq_separator {text : String} (h : ofText text = .separator) : text = "--" := by
  rw [ofText] at h
  split at h
  · next htext => exact String.toList_inj.1 htext
  · cases h
  · cases h
  · cases h

namespace Grammar

variable {g : Grammar} {r r' : Reading}

/-- Whether some words can all be read, with no subcommand among them. Behind them, hyphens still
mark options. -/
structure Understands (g : Grammar) (r : Reading) (words : List String) (r' : Reading) : Prop where
  read_eq : g.read r words = .ok r'
  no_separator : "--" ∉ words
  no_subcommand : r'.subcommand = none

/-- What follows a step that has succeeded may be replaced. -/
theorem bind_eq_of_ok {step answer : Except Stop Reading}
    {next next' : Reading → Except Stop Reading} (h : step >>= next = .ok r')
    (hnext : ∀ r, next r = .ok r' → next' r = answer) : step >>= next' = answer := by
  cases step with
  | error stop => cases h
  | ok r => exact hnext r h

/-- Behind words that are understood, reading goes on with what has been read. -/
theorem read_append {front : List String} (h : g.Understands r front r') (rest : List String) :
    g.read r (front ++ rest) = g.read r' rest := by
  rcases h with ⟨hread, hseparator, hsubcommand⟩
  -- along the reading; where it ended with a separator or a subcommand there is nothing to show
  fun_induction Grammar.read g r front with
  | case1 r =>
    cases hread
    rfl
  | case2 r word words hword =>
    rw [Word.eq_separator hword] at hseparator
    exact absurd List.mem_cons_self hseparator
  | case3 => cases hread
  | case4 =>
    cases hread
    cases hsubcommand
  | case5 r word words text hword hsub ih =>
    rw [List.cons_append, read]
    simp only [hword, if_neg hsub]
    exact bind_eq_of_ok hread fun r hr => ih r hr (List.not_mem_of_not_mem_cons hseparator)
  | case6 => cases hread
  | case7 => cases hread
  | case8 r word words name hkind hword ih =>
    rw [List.cons_append, read]
    simp only [hword, hkind]
    exact bind_eq_of_ok hread fun r hr => ih r hr (List.not_mem_of_not_mem_cons hseparator)
  | case9 r word words name accepts value hkind hword ih =>
    rw [List.cons_append, read]
    simp only [hword, hkind]
    exact bind_eq_of_ok hread fun r hr => ih r hr (List.not_mem_of_not_mem_cons hseparator)
  | case10 => cases hread
  | case11 r word name accepts hkind next words value hnext hword ih =>
    rw [List.cons_append, List.cons_append, read]
    simp only [hword, hkind, hnext]
    have hwords := List.not_mem_of_not_mem_cons (List.not_mem_of_not_mem_cons hseparator)
    exact bind_eq_of_ok hread fun r hr => ih r hr hwords
  | case12 => cases hread

end Grammar

/-! ## Asking for help -/

/-- The words by which help is asked for among options. -/
inductive AsksForHelp : String → Prop
  | long : AsksForHelp "--help"
  | short : AsksForHelp "-h"

theorem read_of_asksForHelp {g : Grammar} (hg : g.kind? "help" = none) {ask : String}
    (h : AsksForHelp ask) (r : Reading) (rest : List String) :
    g.read r (ask :: rest) = .error .help := by
  cases h with
  | long =>
    have hword : Word.ofText "--help" = .long "help" none := by decide
    rw [Grammar.read]
    simp only [hword, hg]
    rfl
  | short =>
    have hword : Word.ofText "-h" = .short 'h' := by decide
    rw [Grammar.read]
    simp only [hword]
    rfl

/-- A subcommand is a word of its own, none of its options asks for help, and it is not the
subcommand for help. -/
theorem subcommand_facts {name : String} {g : Grammar} (h : subcommands.lookup name = some g) :
    Word.ofText name = .plain name ∧ topGrammar.subcommands.contains name = true ∧
      name ≠ helpName ∧ g.kind? "help" = none := by
  have hfacts : ∀ s ∈ subcommands, Word.ofText s.1 = .plain s.1 ∧
      topGrammar.subcommands.contains s.1 = true ∧ s.1 ≠ helpName ∧
        (s.2.kind? "help").isNone = true := by
    decide
  have hmem : (name, g) ∈ subcommands := Entries.mem_of_lookup h
  rcases hfacts _ hmem with ⟨hword, hcontains, hname, hkind⟩
  exact ⟨hword, hcontains, hname, Option.isNone_iff_eq_none.1 hkind⟩

/-- A step fails, or the one after it does. -/
theorem bind_eq_error {ε α β : Type} {step : Except ε α} {next : α → Except ε β} {e : ε}
    (h : step >>= next = .error e) :
    step = .error e ∨ ∃ a, step = .ok a ∧ next a = .error e := by
  cases step with
  | error e' =>
    cases h
    exact .inl rfl
  | ok a => exact .inr ⟨a, rfl, h⟩

theorem mem_subcommands_of_explain {words : List String} {name : String}
    (h : explain words = .help (some name)) : name ∈ topGrammar.subcommands := by
  cases words with
  | nil => cases h
  | cons word rest =>
    cases rest with
    | nil =>
      simp only [explain] at h
      split at h
      · next hcontains =>
        cases h
        exact List.contains_iff_mem.1 hcontains
      · cases h
    | cons next rest => cases h

theorem eq_topic_of_readWords {topic asked : Option String} {g : Grammar} {words : List String}
    (h : readWords topic g words = .error (.help asked)) : asked = topic := by
  rw [readWords] at h
  cases hread : g.read {} words with
  | ok r => simp [hread] at h
  | error stop =>
    simp only [hread, Except.error.injEq] at h
    cases stop with
    | help =>
      cases h
      rfl
    | version => cases h
    | refused => cases h

theorem mem_subcommands_of_parse {words : List String} {name : String}
    (h : parse words = .error (.help (some name))) : name ∈ topGrammar.subcommands := by
  rw [parse] at h
  rcases bind_eq_error h with htop | ⟨top, -, h⟩
  · -- in front of the subcommand help has no topic
    cases eq_topic_of_readWords htop
  · cases hsub : top.subcommand with
    | none => simp [hsub] at h
    | some called =>
      rcases called with ⟨called, rest⟩
      simp only [hsub] at h
      split at h
      · rw [Except.error.injEq] at h
        exact mem_subcommands_of_explain h
      · cases hgrammar : subcommands.lookup called with
        | none => simp [hgrammar] at h
        | some g =>
          simp only [hgrammar] at h
          rcases bind_eq_error h with hwords | ⟨r, -, hcommand⟩
          · -- behind it the topic is the subcommand itself
            cases eq_topic_of_readWords hwords
            exact List.contains_iff_mem.1 (subcommand_facts hgrammar).2.1
          · cases hr : command? called r <;> simp [hr, pure, Except.pure] at hcommand

/-- Help is asked for in general or with a subcommand that has a page. -/
theorem exists_page_of_parse {words : List String} {name : String}
    (h : parse words = .error (.help (some name))) :
    ∃ page, subcommandPages.lookup name = some page := by
  have hpages : ∀ name ∈ topGrammar.subcommands, (subcommandPages.lookup name).isSome = true := by
    decide
  exact Option.isSome_iff_exists.1 (hpages name (mem_subcommands_of_parse h))

/-- A run on a command line that asks for help behind words that are understood, the ones in front
of the subcommand and the ones behind it, prints the page of the subcommand, whatever follows. The
subcommand for help prints the same page. -/
theorem run_asking_for_help (w : Surroundings) {name ask : String} {g : Grammar}
    (hname : subcommands.lookup name = some g) (hask : AsksForHelp ask)
    {front options : List String} {top r : Reading}
    (hfront : topGrammar.Understands {} front top) (hoptions : g.Understands {} options r)
    (rest : List String) :
    run w (front ++ name :: (options ++ ask :: rest)) =
        { code := 0, output := helpText (some name) } ∧
      run w [helpName, name] = { code := 0, output := helpText (some name) } := by
  rcases subcommand_facts hname with ⟨hword, hcontains, hother, hkind⟩
  have htop : topGrammar.read {} (front ++ name :: (options ++ ask :: rest)) =
      .ok { top with subcommand := some (name, options ++ ask :: rest) } := by
    rw [Grammar.read_append hfront, Grammar.read_subcommand hword hcontains]
  have hstop : g.read {} (options ++ ask :: rest) = .error .help := by
    rw [Grammar.read_append hoptions, read_of_asksForHelp hkind hask]
  have hparse : parse (front ++ name :: (options ++ ask :: rest)) = .error (.help (some name)) := by
    simp only [parse, readWords, htop, Bind.bind, Except.bind, if_neg hother, hname, hstop]
    rfl
  have hexplain : parse [helpName, name] = .error (.help (some name)) := by
    have hhelp : topGrammar.read {} [helpName, name] =
        .ok { subcommand := some (helpName, [name]) } :=
      Grammar.read_subcommand (by decide) (by decide) {} [name]
    simp only [parse, readWords, hhelp, Bind.bind, Except.bind, if_true, explain, hcontains]
  simp only [run, hparse, hexplain, and_self]

/-- The required option stands in the line on usage, and all of them are listed. -/
example :
    helpText (some "hmac") =
      String.join (List.map line
        ["Computes an HMAC over the message",
         "",
         "Usage: k5core hmac [OPTIONS] --key <KEY> [DATA]",
         "",
         "Arguments:",
         "  [DATA]  Message bytes as hex",
         "",
         "Options:",
         "      --hash <HASH>       [default: SHA1]",
         "      --log <FILTER>      Log filter directives; overrides K5CORE_LOG",
         "      --key <KEY>         Key as hex",
         "      --data-file <PATH>  Read raw message bytes from a file",
         "  -h, --help              Print help"]) := by
  decide +kernel

end CommandLine
end Kerberos
