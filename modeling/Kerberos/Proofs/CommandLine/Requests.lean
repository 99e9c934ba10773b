import Kerberos.Cipher.Transform
import Kerberos.CommandLine.Command
import Kerberos.Proofs.CommandLine.Arguments

/-!
# Requests for encryption and decryption

The options of a request are given by their names and the message as an operand. In whatever order
and form they stand behind the command, the request is understood: `parse_of_writes`.
-/

namespace Kerberos
namespace CommandLine

/-- The command that transforms a message in a direction. -/
def directed (d : Direction) (request : TransformRequest) : Command :=
  match d with
  | .encrypt => .encrypt request
  | .decrypt => .decrypt request

/-- The options of a request, by their names. -/
def requestOptions (enctype key : String) (iv : Option String) : List (String × String) :=
  ("enctype", enctype) :: ("key", key) :: iv.toList.map fun iv => ("iv", iv)

def transformGrammar : Grammar :=
  subcommandGrammar transformOptions 1

variable {enctype key : String} {iv : Option String}

theorem nodup_names_requestOptions : ((requestOptions enctype key iv).map (·.1)).Nodup := by
  cases iv with
  | none =>
    change ["enctype", "key"].Nodup
    decide
  | some iv =>
    change ["enctype", "key", "iv"].Nodup
    decide

theorem name_mem_of_mem_requestOptions {name : String}
    (h : name ∈ (requestOptions enctype key iv).map (·.1)) : name ∈ ["enctype", "key", "iv"] := by
  cases iv with
  | none =>
    change name ∈ ["enctype", "key"] at h
    exact List.mem_append_left ["iv"] h
  | some iv => exact h

/-- The values of these options may be any texts. -/
theorem takes_of_mem {name value : String} (hname : name ∈ ["enctype", "key", "iv"])
    (hplain : Word.ofText value = .plain value) : transformGrammar.Takes name value := by
  have hnames : ∀ name ∈ ["enctype", "key", "iv"], '=' ∉ name.toList ∧ name ≠ "" := by decide
  have hkinds : ∀ name ∈ ["enctype", "key", "iv"], transformGrammar.kind? name = some anyText := by
    simp [transformGrammar, Grammar.kind?, subcommandGrammar, transformOptions, logOption]
  refine ⟨(hnames name hname).1, (hnames name hname).2, ?_, hplain⟩
  exact ⟨fun _ => true, hkinds name hname, rfl⟩

/-! ## What is read -/

section Values

variable {r : Reading} (hperm : r.options.Perm (requestOptions enctype key iv))

include hperm

theorem nodup_names_of_perm : (r.options.map (·.1)).Nodup :=
  (hperm.map (·.1)).nodup_iff.2 nodup_names_requestOptions

theorem value?_eq_some_of_perm {name value : String}
    (h : (name, value) ∈ requestOptions enctype key iv) : r.value? name = some value := by
  rw [Reading.value?_eq_lookup, Entries.lookup_eq_some_iff_mem (nodup_names_of_perm hperm)]
  exact hperm.mem_iff.2 h

theorem value?_eq_none_of_perm {name : String}
    (h : name ∉ (requestOptions enctype key iv).map (·.1)) : r.value? name = none := by
  rw [Reading.value?_eq_lookup, Entries.lookup_eq_none_iff]
  exact mt (hperm.map (·.1)).mem_iff.1 h

/-- The order of the options does not matter for the request that is made of them. -/
theorem transformRequest?_of_perm {data : String} (hdata : r.operands = [data]) :
    transformRequest? r = some ⟨enctype, key, iv, .text data⟩ := by
  have henctype : r.value? "enctype" = some enctype :=
    value?_eq_some_of_perm hperm List.mem_cons_self
  have hkey : r.value? "key" = some key :=
    value?_eq_some_of_perm hperm (List.mem_cons_of_mem _ List.mem_cons_self)
  have hiv : r.value? "iv" = iv := by
    cases iv with
    | none => exact value?_eq_none_of_perm hperm (by change _ ∉ ["enctype", "key"]; decide)
    | some iv =>
      exact value?_eq_some_of_perm hperm (by simp [requestOptions])
  have hfile : r.value? "data-file" = none := by
    apply value?_eq_none_of_perm hperm
    intro hmem
    exact absurd (name_mem_of_mem_requestOptions hmem) (by decide)
  simp [transformRequest?, source?, henctype, hkey, hiv, hfile, hdata]

end Values

theorem read_verb (d : Direction) (rest : List String) :
    topGrammar.read {} (d.verb :: rest) = .ok { subcommand := some (d.verb, rest) } := by
  have hverb : Word.ofText d.verb = .plain d.verb ∧
      topGrammar.subcommands.contains d.verb = true := by
    cases d with
    | encrypt => decide
    | decrypt => decide
  exact Grammar.read_subcommand hverb.1 hverb.2 {} rest

theorem parse_verb (d : Direction) {rest : List String} {r : Reading} {request : TransformRequest}
    (hread : transformGrammar.read {} rest = .ok r) (hlog : r.value? "log" = none)
    (hrequest : transformRequest? r = some request) :
    parse (d.verb :: rest) = .ok ⟨directed d request, none⟩ := by
  have hlookup : d.verb ≠ helpName ∧ subcommands.lookup d.verb = some transformGrammar := by
    cases d with
    | encrypt => exact ⟨by decide, rfl⟩
    | decrypt => exact ⟨by decide, rfl⟩
  have hcommand : command? d.verb r = some (directed d request) := by
    cases d with
    | encrypt => exact congrArg (Option.map Command.encrypt) hrequest
    | decrypt => exact congrArg (Option.map Command.decrypt) hrequest
  simp only [parse, readWords, read_verb, Bind.bind, Except.bind, hlookup.1, if_false, hlookup.2,
    hread, hcommand, hlog]
  rfl

/-- A command line with the options of a request and the message, in any order, is understood. -/
theorem parse_of_writes {d : Direction} {data : String} {words : List String}
    (hwords : Writes d.verb (requestOptions enctype key iv) [data] words)
    (hvalues : ∀ o ∈ requestOptions enctype key iv, Word.ofText o.2 = .plain o.2)
    (hdata : Word.ofText data = .plain data) :
    parse words = .ok ⟨directed d ⟨enctype, key, iv, .text data⟩, none⟩ := by
  rcases hwords with ⟨args, hperm, hoperands, rfl⟩
  -- what is read keeps the order of the command line, which is one of those of the request
  let r : Reading :=
    { options := args.filterMap Argument.option?, operands := args.filterMap Argument.operand? }
  have hread : transformGrammar.read {} (args.flatMap Argument.words) = .ok r := by
    apply Grammar.read_flatMap_words (r := {})
    · intro o ho
      have hmem := hperm.mem_iff.1 ho
      exact takes_of_mem (name_mem_of_mem_requestOptions (List.mem_map.2 ⟨o, hmem, rfl⟩))
        (hvalues o hmem)
    · rw [hoperands]
      intro text htext
      cases List.mem_singleton.1 htext
      exact ⟨hdata, rfl⟩
    · exact nodup_names_of_perm (r := r) hperm
    · rw [hoperands]
      exact Nat.le_refl 1
  have hlog : r.value? "log" = none := by
    apply value?_eq_none_of_perm hperm
    intro hmem
    exact absurd (name_mem_of_mem_requestOptions hmem) (by decide)
  exact parse_verb d hread hlog (transformRequest?_of_perm hperm hoperands)

end CommandLine
end Kerberos
