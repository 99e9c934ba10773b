import Kerberos.CommandLine.Run
import Kerberos.Proofs.Cipher.Guarded
import Kerberos.Proofs.Registry.Builtin

/-!
# How runs end

A run ends with one of three exit codes, or it breaks down. The only command that can break down is
the derivation of bytes from a password, and it does so exactly when it is asked for more bytes than
can be allocated: `run_breaks_down_iff`.
-/

namespace Kerberos
namespace CommandLine

/-! ## Commands that break down -/

namespace Performance

def BreaksDown (p : Performance) : Prop :=
  p.output = .error .breakdown

theorem not_breaksDown_failed (f : Failure) : ¬ (failed f).BreaksDown := by
  intro h
  cases h

theorem not_breaksDown_printed (output : String) : ¬ (printed output).BreaksDown := by
  intro h
  cases h

theorem breaksDown_after_iff {events : List Log.Event} {p : Performance} :
    (after events p).BreaksDown ↔ p.BreaksDown :=
  Iff.rfl

/-- A command that cannot read its input fails, which is no breakdown. -/
theorem breaksDown_withInput_iff {α : Type} {input : Except Failure α} {next : α → Performance} :
    (withInput input next).BreaksDown ↔ ∃ a, input = .ok a ∧ (next a).BreaksDown := by
  cases input with
  | error f =>
    constructor
    · intro h
      exact absurd h (not_breaksDown_failed f)
    · rintro ⟨a, hinput, -⟩
      cases hinput
  | ok a =>
    constructor
    · intro h
      exact ⟨a, rfl, h⟩
    · rintro ⟨a', hinput, h⟩
      cases hinput
      exact h

theorem not_breaksDown_withInput {α : Type} {next : α → Performance}
    (h : ∀ a, ¬ (next a).BreaksDown) (input : Except Failure α) :
    ¬ (withInput input next).BreaksDown := by
  intro hbreaks
  rcases breaksDown_withInput_iff.1 hbreaks with ⟨a, -, hnext⟩
  exact h a hnext

end Performance

open Performance (BreaksDown failed printed)

variable (w : Surroundings)

/-- The derivation itself can only fail. -/
theorem performPbkdf2_breaksDown_iff (salt : String) (iterations length : Nat) :
    (performPbkdf2 w salt iterations length).BreaksDown ↔
      (∃ password, readPassword w = .ok password) ∧ Size.largestAllocation < length := by
  rw [performPbkdf2, Performance.breaksDown_withInput_iff]
  constructor
  · rintro ⟨password, hpassword, hbreaks⟩
    refine ⟨⟨password, hpassword⟩, ?_⟩
    -- an output that was allocated is filled, or the count is refused
    apply Decidable.byContradiction
    intro hsmall
    rw [if_neg hsmall] at hbreaks
    cases hanswer : (Pbkdf2.fill (List.replicate length 0) iterations
        (Text.Utf8.encode password) (Text.Utf8.encode salt)).answer with
    | error e => simp [BreaksDown, hanswer] at hbreaks
    | ok _ => simp [BreaksDown, hanswer] at hbreaks
  · rintro ⟨⟨password, hpassword⟩, hlarge⟩
    refine ⟨password, hpassword, ?_⟩
    rw [if_pos hlarge]
    rfl

theorem not_breaksDown_performHmac (hash key : String) (source : Source) :
    ¬ (performHmac w .builtin hash key source).BreaksDown := by
  refine Performance.not_breaksDown_withInput ?_ _
  intro keyBytes
  refine Performance.not_breaksDown_withInput ?_ _
  intro data hbreaks
  -- the registry is the built-in one, whose hashes have room for their digests
  cases hsum : Registry.makeChecksum .builtin hash ⟨.arcfourHmac, keyBytes⟩ [⟨.data, data⟩] with
  | error f =>
    cases f with
    | error e => simp [BreaksDown, hsum] at hbreaks
    | breakdown => exact Registry.makeChecksum_builtin_ne_breakdown _ _ _ hsum
  | ok sum => simp [BreaksDown, hsum] at hbreaks

theorem not_breaksDown_performTransform (d : Direction) (request : TransformRequest) :
    ¬ (performTransform w d request).BreaksDown := by
  rw [performTransform]
  cases Enctype.parse? request.enctype with
  | none => exact Performance.not_breaksDown_failed _
  | some enctype =>
    refine Performance.not_breaksDown_withInput ?_ _
    intro key
    refine Performance.not_breaksDown_withInput ?_ _
    intro data
    rw [Performance.breaksDown_after_iff]
    refine Performance.not_breaksDown_withInput ?_ _
    intro state hbreaks
    cases hanswer : (enctype.provider.transform d ⟨enctype, key⟩ (some state)
        [⟨.data, data⟩]).answer with
    | error e => simp [BreaksDown, hanswer] at hbreaks
    | ok _ => simp [BreaksDown, hanswer] at hbreaks

theorem not_breaksDown_performCbcMac (key : String) (iv : Option String) (source : Source) :
    ¬ (performCbcMac w key iv source).BreaksDown := by
  refine Performance.not_breaksDown_withInput ?_ _
  intro keyBytes
  refine Performance.not_breaksDown_withInput ?_ _
  intro ivBytes
  refine Performance.not_breaksDown_withInput ?_ _
  intro data hbreaks
  cases hanswer : (Provider.des.cbcMac ⟨.desCbcCrc, keyBytes⟩ [⟨.data, data⟩] ivBytes
      DesCbc.emptyBlock).answer with
  | error e => simp [failed, BreaksDown, hanswer] at hbreaks
  | ok _ => simp [printed, BreaksDown, hanswer] at hbreaks

theorem not_breaksDown_performDesKey (request : KeyRequest) :
    ¬ (performDesKey w request).BreaksDown := by
  cases request with
  | missing => exact Performance.not_breaksDown_failed _
  | random =>
    rw [performDesKey, Performance.breaksDown_after_iff]
    cases Des.keyOfRandom w.random with
    | error e => exact Performance.not_breaksDown_failed _
    | ok key => exact Performance.not_breaksDown_printed _
  | given hex =>
    rw [performDesKey]
    refine Performance.not_breaksDown_withInput ?_ _
    intro key
    by_cases hlength : key.length = 8
    · rw [if_pos hlength]
      exact Performance.not_breaksDown_printed _
    · rw [if_neg hlength]
      exact Performance.not_breaksDown_failed _

/-- Whether a command asks for more bytes from a password than can be allocated. -/
def AsksTooMuch (command : Command) : Prop :=
  ∃ salt iterations length password, command = .pbkdf2 salt iterations length ∧
    readPassword w = .ok password ∧ Size.largestAllocation < length

theorem perform_breaksDown_iff (command : Command) :
    (perform w command).BreaksDown ↔ AsksTooMuch w command := by
  constructor
  · intro hbreaks
    cases command with
    | pbkdf2 salt iterations length =>
      rcases (performPbkdf2_breaksDown_iff w salt iterations length).1 hbreaks with
        ⟨⟨password, hpassword⟩, hlarge⟩
      exact ⟨salt, iterations, length, password, rfl, hpassword, hlarge⟩
    | providers json => exact absurd hbreaks (Performance.not_breaksDown_printed _)
    | hmac hash key source => exact absurd hbreaks (not_breaksDown_performHmac w hash key source)
    | encrypt request => exact absurd hbreaks (not_breaksDown_performTransform w .encrypt request)
    | decrypt request => exact absurd hbreaks (not_breaksDown_performTransform w .decrypt request)
    | cbcMac key iv source => exact absurd hbreaks (not_breaksDown_performCbcMac w key iv source)
    | desKey request => exact absurd hbreaks (not_breaksDown_performDesKey w request)
  · rintro ⟨salt, iterations, length, password, rfl, hpassword, hlarge⟩
    exact (performPbkdf2_breaksDown_iff w salt iterations length).2 ⟨⟨password, hpassword⟩, hlarge⟩

/-! ## Exit codes -/

theorem report_starts_with_error (f : Failure) : ∃ text, f.report = "Error: " ++ text := by
  rw [Failure.report, String.append_assoc]
  exact ⟨_, rfl⟩

/-- The four ways in which a run can end. -/
theorem run_cases (words : List String) :
    (run w words).code = 0 ∨
      ((run w words).code = 1 ∧ ∃ text, (run w words).report = "Error: " ++ text) ∨
      ((run w words).code = 2 ∧ parse words = .error .refused) ∨
      ((run w words).code = 101 ∧
        ∃ invocation, parse words = .ok invocation ∧ AsksTooMuch w invocation.command) := by
  rw [run]
  cases hwords : parse words with
  | error noCommand =>
    cases noCommand with
    | help topic => exact .inl rfl
    | version => exact .inl rfl
    | refused => exact .inr (.inr (.inl ⟨rfl, rfl⟩))
  | ok invocation =>
    cases houtput : (perform w invocation.command).output with
    | ok output => simp [conclude, houtput]
    | error ending =>
      cases ending with
      | failure f =>
        have hreport := report_starts_with_error f
        simp [conclude, houtput, hreport]
      | breakdown =>
        have hasks : AsksTooMuch w invocation.command := (perform_breaksDown_iff w _).1 houtput
        refine .inr (.inr (.inr ⟨?_, invocation, rfl, hasks⟩))
        simp [conclude, houtput, breakdownCode]

theorem code_run_of_asksTooMuch {words : List String} {invocation : Invocation}
    (hwords : parse words = .ok invocation) (hasks : AsksTooMuch w invocation.command) :
    (run w words).code = 101 := by
  have houtput : (perform w invocation.command).output = .error .breakdown :=
    (perform_breaksDown_iff w invocation.command).2 hasks
  simp [run, hwords, conclude, houtput, breakdownCode]

/-- Every run ends with the code of a success, of a reported error or of a refused command line, or
else it breaks down. It breaks down exactly if the command line is understood, asks for more bytes
from a password than can be allocated, and a password can be read. Nothing else can go wrong in it:
the copies of blocks, the cursors and the loops of the block cipher stay in bounds for all inputs. -/
theorem run_breaks_down_iff (w : Surroundings) (words : List String) :
    let r := run w words
    (r.code = 0 ∨ (r.code = 1 ∧ ∃ text, r.report = "Error: " ++ text) ∨
        (r.code = 2 ∧ parse words = .error .refused) ∨ r.code = 101) ∧
      (r.code = 101 ↔
        ∃ invocation, parse words = .ok invocation ∧ AsksTooMuch w invocation.command) ∧
      (∀ d key state m, DesCbc.transform? d key state m = some (DesCbc.transform d key state m)) ∧
      ∀ key m iv output, DesCbc.mac? key m iv output = some (DesCbc.mac key m iv output) := by
  intro r
  refine ⟨?_, ⟨?_, ?_⟩, DesCbc.transform?_eq, DesCbc.mac?_eq⟩
  · rcases run_cases w words with hsuccess | hfailure | hrefused | ⟨hbreakdown, -⟩
    · exact .inl hsuccess
    · exact .inr (.inl hfailure)
    · exact .inr (.inr (.inl hrefused))
    · exact .inr (.inr (.inr hbreakdown))
  · intro hcode
    -- the other codes are other numbers
    rcases run_cases w words with hsuccess | ⟨hfailure, -⟩ | ⟨hrefused, -⟩ | ⟨-, hasks⟩
    · cases hcode.symm.trans hsuccess
    · cases hcode.symm.trans hfailure
    · cases hcode.symm.trans hrefused
    · exact hasks
  · rintro ⟨invocation, hwords, hasks⟩
    exact code_run_of_asksTooMuch w hwords hasks

/-- One byte more than can be allocated. -/
theorem run_pbkdf2_beyond_largest_allocation :
    let w : Surroundings :=
      { password := some "pw", logFilter := none, input := [],
        fileContent := fun _ => .error .missing, random := [] }
    (run w ["pbkdf2", "--salt", "x", "--length", "9223372036854775808"]).code = 101 := by
  decide +kernel

end CommandLine
end Kerberos
