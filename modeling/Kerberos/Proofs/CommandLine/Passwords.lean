import Kerberos.CommandLine.Run
import Kerberos.Proofs.Text.Utf8

/-!
# The two sources of a password

A password can stand in the environment or in the first line of standard input. There it may be
followed by carriage returns, which do not belong to it, and what comes after the line is not
looked at. A run that derives bytes from a password does the same with either:
`run_pbkdf2_password_sources_agree`.
-/

namespace Kerberos
namespace CommandLine

/-! ## The first line of an input -/

/-- Inputs whose first line is a text with carriage returns behind it. -/
inductive StartsWithLine (text : String) : List UInt8 → Prop
  /-- A line feed ends the line, and any bytes follow. -/
  | ended (returns : Nat) (rest : List UInt8) :
      StartsWithLine text
        (Text.Utf8.encode text ++ List.replicate returns 0x0D ++ 0x0A :: rest)
  /-- The line ends with the input. -/
  | last (returns : Nat) :
      StartsWithLine text (Text.Utf8.encode text ++ List.replicate returns 0x0D)

/-- A text with carriage returns behind it. -/
def withReturns (text : String) (returns : Nat) : String :=
  String.ofList (text.toList ++ List.replicate returns '\r')

theorem encode_withReturns (text : String) (returns : Nat) :
    Text.Utf8.encode (withReturns text returns) =
      Text.Utf8.encode text ++ List.replicate returns 0x0D := by
  have hreturns : (List.replicate returns '\r').flatMap String.utf8EncodeChar =
      List.replicate returns 0x0D := by
    rw [List.flatMap_replicate]
    exact List.flatten_replicate_singleton
  rw [Text.Utf8.encode, withReturns, String.toList_ofList, List.flatMap_append, hreturns,
    Text.Utf8.encode]

theorem lf_not_mem_withReturns {text : String} (hlf : '\n' ∉ text.toList) (returns : Nat) :
    '\n' ∉ (withReturns text returns).toList := by
  rw [withReturns, String.toList_ofList, List.mem_append]
  rintro (htext | hreturns)
  · exact hlf htext
  · cases List.eq_of_mem_replicate hreturns

variable {text : String} {input : List UInt8}

/-- The first line goes up to a line feed, which no other character has as one of its bytes. -/
theorem firstLine_append {line : String} (hlf : '\n' ∉ line.toList) (rest : List UInt8) :
    firstLine (Text.Utf8.encode line ++ rest) = Text.Utf8.encode line ++ firstLine rest := by
  have hbyte : (0x0A : UInt8) ∉ Text.Utf8.encode line :=
    Text.Utf8.not_mem_encode_of_ascii (c := '\n') (by decide) hlf
  apply List.takeWhile_append_of_pos
  intro b hb
  rw [decide_eq_true_iff]
  rintro rfl
  exact hbyte hb

theorem StartsWithLine.exists_firstLine_eq (h : StartsWithLine text input)
    (hlf : '\n' ∉ text.toList) :
    ∃ returns, firstLine input = Text.Utf8.encode (withReturns text returns) := by
  cases h with
  | ended returns rest =>
    have hrest : firstLine (0x0A :: rest) = [] := rfl
    refine ⟨returns, ?_⟩
    rw [← encode_withReturns, firstLine_append (lf_not_mem_withReturns hlf returns), hrest,
      List.append_nil]
  | last returns =>
    have hrest : firstLine [] = [] := rfl
    have hline := firstLine_append (lf_not_mem_withReturns hlf returns) []
    refine ⟨returns, ?_⟩
    rw [← encode_withReturns]
    rwa [hrest, List.append_nil] at hline

/-! ## Reading a password -/

/-- Only the carriage returns behind a text are dropped, and none inside it. -/
theorem dropLineEnds_withReturns (hlf : '\n' ∉ text.toList)
    (hcr : text.toList.getLast? ≠ some '\r') (returns : Nat) :
    dropLineEnds (withReturns text returns).toList = text.toList := by
  have hreturns : ∀ c ∈ List.replicate returns '\r', (c = '\n' || c = '\r') = true := by
    intro c hc
    rw [List.eq_of_mem_replicate hc]
    rfl
  have hstays : text.toList.reverse.dropWhile (fun c => c = '\n' || c = '\r') =
      text.toList.reverse := by
    rw [← List.mem_reverse] at hlf
    rw [← List.head?_reverse] at hcr
    cases hchars : text.toList.reverse with
    | nil => rfl
    | cons c rest =>
      rw [hchars] at hlf hcr
      have hc : c ≠ '\n' := fun hc => hlf (hc ▸ List.mem_cons_self)
      have hc' : c ≠ '\r' := fun hc => hcr (congrArg some hc)
      apply List.dropWhile_cons_of_neg
      simp [hc, hc']
  rw [dropLineEnds, withReturns, String.toList_ofList, List.reverse_append, List.reverse_replicate,
    List.dropWhile_append_of_pos hreturns, hstays, List.reverse_reverse]

/-- What follows the first line is not looked at, so it need not be a text. -/
theorem passwordOfInput_of_line (h : StartsWithLine text input) (hlf : '\n' ∉ text.toList)
    (hcr : text.toList.getLast? ≠ some '\r') :
    passwordOfInput input = if text = "" then .error .noPassword else .ok text := by
  rcases h.exists_firstLine_eq hlf with ⟨returns, hline⟩
  simp only [passwordOfInput, hline, Text.Utf8.decode?_encode,
    dropLineEnds_withReturns hlf hcr returns]
  cases hchars : text.toList with
  | nil => rw [if_pos (String.toList_eq_nil_iff.1 hchars)]
  | cons c rest =>
    have htext : text ≠ "" := by
      rintro rfl
      cases hchars
    have hlist : String.ofList (c :: rest) = text := by rw [← hchars, String.ofList_toList]
    rw [if_neg htext]
    exact congrArg Except.ok hlist

/-- Surroundings in which the environment gives no password. -/
def Surroundings.LeavesPassword (w : Surroundings) : Prop :=
  w.password = none ∨ w.password = some ""

theorem Surroundings.LeavesPassword.readPassword_eq {w : Surroundings} (h : w.LeavesPassword) :
    readPassword w = passwordOfInput w.input := by
  rcases h with hnone | hempty
  · rw [readPassword, hnone]
  · rw [readPassword, hempty]
    rfl

theorem readPassword_of_environment {w : Surroundings} (h : w.password = some text)
    (htext : text ≠ "") : readPassword w = .ok text := by
  have hempty : text.isEmpty = false := by
    rw [← Bool.not_eq_true, String.isEmpty_iff]
    exact htext
  rw [readPassword, h]
  simp only [hempty, Bool.false_eq_true, if_false]

/-! ## Runs -/

/-- Texts that either source of a password can give. -/
structure IsPassword (text : String) : Prop where
  ne_empty : text ≠ ""
  no_lf : '\n' ∉ text.toList
  no_cr_at_end : text.toList.getLast? ≠ some '\r'

/-- The log filter decides neither the exit code nor what is printed. -/
theorem conclude_filter (filter filter' : Log.Filter) (p : Performance) :
    (conclude filter p).code = (conclude filter' p).code ∧
      (conclude filter p).output = (conclude filter' p).output := by
  rw [conclude, conclude]
  cases p.output with
  | ok output => exact ⟨rfl, rfl⟩
  | error ending =>
    cases ending with
    | failure f => exact ⟨rfl, rfl⟩
    | breakdown => exact ⟨rfl, rfl⟩

section Runs

variable {words : List String} {salt : String} {iterations length : Nat} {log : Option String}
  (hwords : parse words = .ok ⟨.pbkdf2 salt iterations length, log⟩)
include hwords

/-- The password is all that the derivation takes from its surroundings. -/
theorem run_pbkdf2_congr {w w' : Surroundings} (h : readPassword w = readPassword w') :
    (run w words).code = (run w' words).code ∧ (run w words).output = (run w' words).output := by
  have hperform : perform w (.pbkdf2 salt iterations length) =
      perform w' (.pbkdf2 salt iterations length) := by
    rw [perform, perform, performPbkdf2, performPbkdf2, h]
  rw [run, run, hwords]
  change (conclude _ (perform w (.pbkdf2 salt iterations length))).code = _ ∧
    (conclude _ (perform w (.pbkdf2 salt iterations length))).output = _
  rw [hperform]
  exact conclude_filter _ _ _

/-- What is printed for a password, if the count is not refused and the output can be allocated. -/
theorem run_pbkdf2_of_password {w : Surroundings} {password : String}
    (h : readPassword w = .ok password) (hcount : 0 < iterations)
    (hlength : length ≤ Size.largestAllocation) :
    (run w words).code = 0 ∧
      (run w words).output = line (Text.Hex.encode (Pbkdf2.fill (List.replicate length 0) iterations
        (Text.Utf8.encode password) (Text.Utf8.encode salt)).after) := by
  have hsmall : ¬Size.largestAllocation < length := Nat.not_lt.2 hlength
  have hanswer : (Pbkdf2.fill (List.replicate length 0) iterations (Text.Utf8.encode password)
      (Text.Utf8.encode salt)).answer = .ok () := by
    rw [Pbkdf2.fill, if_neg (Nat.pos_iff_ne_zero.1 hcount)]
  have houtput : (perform w (.pbkdf2 salt iterations length)).output =
      .ok (line (Text.Hex.encode (Pbkdf2.fill (List.replicate length 0) iterations
        (Text.Utf8.encode password) (Text.Utf8.encode salt)).after)) := by
    simp only [perform, performPbkdf2, h, Performance.withInput, if_neg hsmall, hanswer]
  simp [run, hwords, conclude, houtput]

theorem run_pbkdf2_of_no_password {w : Surroundings} (h : readPassword w = .error .noPassword) :
    (run w words).code = 1 ∧ (run w words).output = "" := by
  have hperform : perform w (.pbkdf2 salt iterations length) = .failed .noPassword := by
    rw [perform, performPbkdf2, h]
    rfl
  simp [run, hwords, conclude, hperform, Performance.failed]

/-- A command line that derives bytes from a password gives the same exit code and prints the same
if the environment leaves the password to standard input and the first line is the password, as if
the environment has it. What is printed are bytes derived from just this password. An empty line is
no password. -/
theorem run_pbkdf2_password_sources_agree :
    (∀ (w w' : Surroundings) (password : String), IsPassword password →
        w.LeavesPassword → StartsWithLine password w.input → w'.password = some password →
          (run w words).code = (run w' words).code ∧
            (run w words).output = (run w' words).output ∧
            (0 < iterations → length ≤ Size.largestAllocation →
              (run w words).code = 0 ∧
                (run w words).output = line (Text.Hex.encode (Pbkdf2.fill (List.replicate length 0)
                  iterations (Text.Utf8.encode password) (Text.Utf8.encode salt)).after))) ∧
      ∀ w : Surroundings, w.LeavesPassword → StartsWithLine "" w.input →
        (run w words).code = 1 ∧ (run w words).output = "" := by
  refine ⟨?_, ?_⟩
  · intro w w' password hpassword hleaves hline henvironment
    have hread := passwordOfInput_of_line hline hpassword.no_lf hpassword.no_cr_at_end
    rw [if_neg hpassword.ne_empty, ← hleaves.readPassword_eq] at hread
    have hread' := readPassword_of_environment henvironment hpassword.ne_empty
    rcases run_pbkdf2_congr hwords (hread.trans hread'.symm) with ⟨hcode, houtput⟩
    exact ⟨hcode, houtput, run_pbkdf2_of_password hwords hread⟩
  · intro w hleaves hline
    have hread := passwordOfInput_of_line hline List.not_mem_nil (by decide)
    rw [if_pos rfl, ← hleaves.readPassword_eq] at hread
    exact run_pbkdf2_of_no_password hwords hread

end Runs

/-- A password with a blank and a carriage return inside it, in a line that ends with two carriage
returns and has bytes behind it that are no text, and an empty line in front of a second one. -/
theorem run_pbkdf2_password_sources_agree_piped :
    let words := ["pbkdf2", "--salt", "ATHENA", "--iterations", "2", "--length", "5"]
    let password := " p\rw"
    let w : Surroundings :=
      { password := some "", logFilter := none,
        input := Text.Utf8.encode password ++ List.replicate 2 0x0D ++ 0x0A :: [0xFF],
        fileContent := fun _ => .error .missing, random := [] }
    let w' : Surroundings := { w with password := some password, input := [] }
    let empty : Surroundings := { w with input := [0x0D, 0x0A, 0x70] }
    parse words = .ok ⟨.pbkdf2 "ATHENA" 2 5, none⟩ ∧ IsPassword password ∧
      StartsWithLine password w.input ∧ StartsWithLine "" empty.input ∧
      (run w words).code = 0 ∧ (run w' words).code = 0 ∧
      (run w words).output = (run w' words).output ∧ (run empty words).code = 1 := by
  intro words password w w' empty
  have hwords : parse words = .ok ⟨.pbkdf2 "ATHENA" 2 5, none⟩ := by rfl
  have hpassword : IsPassword password := ⟨by decide, by decide, by decide⟩
  have hline : StartsWithLine password w.input := .ended 2 [0xFF]
  have hempty : StartsWithLine "" empty.input := .ended 1 [0x70]
  rcases run_pbkdf2_password_sources_agree hwords with ⟨hagree, hnone⟩
  rcases hagree w w' password hpassword (.inr rfl) hline rfl with ⟨hcode, houtput, hderived⟩
  have hzero : (run w words).code = 0 := (hderived (by decide) (by decide)).1
  exact ⟨hwords, hpassword, hline, hempty, hzero, hcode ▸ hzero, houtput,
    (hnone empty (.inr rfl) hempty).1⟩

end CommandLine
end Kerberos
