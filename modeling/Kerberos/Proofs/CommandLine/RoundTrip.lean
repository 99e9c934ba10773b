import Kerberos.CommandLine.Run
import Kerberos.Proofs.Cipher.OneSegment
import Kerberos.Proofs.CommandLine.Requests
import Kerberos.Proofs.Enctype

/-!
# Decrypting on the command line

What the encryption command prints on its first line is decrypted with the same options, and the
first line then shows the message. Main statement: `run_decrypt_run_encrypt`.
-/

namespace Kerberos
namespace CommandLine

/-! ## Printed lines -/

/-- The lines that a run has printed. -/
def Result.lines (r : Result) : List String :=
  ((Text.parts '\n' r.output.toList).dropLast).map String.ofList

/-- Behind the last line feed there is one more part, which is empty. -/
theorem parts_join_lines {lines : List String} (h : ∀ text ∈ lines, '\n' ∉ text.toList) :
    Text.parts '\n' (String.join (lines.map line)).toList = lines.map String.toList ++ [[]] := by
  induction lines with
  | nil => rfl
  | cons first rest ih =>
    have hfirst := h first List.mem_cons_self
    have hrest := ih fun text htext => h text (List.mem_cons_of_mem first htext)
    have hjoin : (String.join ((first :: rest).map line)).toList =
        first.toList ++ '\n' :: (String.join (rest.map line)).toList := by
      simp [line]
    rw [hjoin, Text.parts_append hfirst, hrest]
    rfl

/-- The lines that show the result of a transform and, if there is one, the chaining value. -/
def shown (result : List UInt8) (chain : Option (List UInt8)) : List String :=
  Text.Hex.encode result :: chain.toList.map fun iv => "iv: " ++ Text.Hex.encode iv

theorem lf_not_mem_encode (bytes : List UInt8) : '\n' ∉ (Text.Hex.encode bytes).toList := by
  intro hmem
  have hblank : Text.isBlank '\n' = true := by decide
  rw [Text.Hex.isBlank_of_mem_encode hmem] at hblank
  cases hblank

theorem lf_not_mem_of_mem_shown {result : List UInt8} {chain : Option (List UInt8)} {text : String}
    (h : text ∈ shown result chain) : '\n' ∉ text.toList := by
  rcases List.mem_cons.1 h with rfl | hchain
  · exact lf_not_mem_encode result
  · rcases List.mem_map.1 hchain with ⟨iv, -, rfl⟩
    have hiv := lf_not_mem_encode iv
    simp [hiv]

theorem lines_eq_shown {r : Result} {result : List UInt8} {chain : Option (List UInt8)}
    (h : r.output = String.join ((shown result chain).map line)) :
    r.lines = shown result chain := by
  rw [Result.lines, h, parts_join_lines fun text htext => lf_not_mem_of_mem_shown htext,
    List.dropLast_concat, List.map_map]
  simp

variable {w : Surroundings} {d : Direction} {e : Enctype}
  {key data result : List UInt8} {state : CipherState} {chain : Option (List UInt8)}

theorem showTransformed_eq {t : Transformed} (hresult : t.message.dataBytes = result)
    (hchain : t.state.bind CipherState.asIv? = chain) :
    showTransformed t = String.join ((shown result chain).map line) := by
  rw [showTransformed, hresult, hchain]
  cases chain with
  | none => simp [shown]
  | some iv => simp [shown]

/-! ## One run -/

theorem readHex_of_spells {text : String} {bytes : List UInt8} (h : Text.Hex.Spells text bytes)
    (argument : HexArgument) : readHex argument text = .ok bytes := by
  rw [readHex, Text.Hex.decode_trim_of_spells h]

theorem ofText_of_spells {text : String} {bytes : List UInt8} (h : Text.Hex.Spells text bytes) :
    Word.ofText text = .plain text := by
  apply Word.ofText_of_head?
  intro hhead
  exact Text.Hex.hyphen_not_mem_of_spells h (List.mem_of_mem_head? hhead)

/-- The output of a transform that succeeds. -/
theorem output_performTransform (request : TransformRequest)
    (henctype : Enctype.parse? request.enctype = some e)
    (hkey : readHex .key request.key = .ok key) (hdata : readSource w request.source = .ok data)
    (hstate : startState e request.iv = .ok state)
    (hgives : e.provider.Gives d ⟨e, key⟩ state data result chain) :
    (performTransform w d request).output = .ok (String.join ((shown result chain).map line)) := by
  have hshow := showTransformed_eq hgives.dataBytes_eq hgives.chain_eq
  simp only [performTransform, henctype, hkey, hdata, hstate, Performance.withInput,
    Performance.after, hgives.answer_eq, hshow]

theorem run_of_output {words : List String} {invocation : Invocation} {output : String}
    (hwords : parse words = .ok invocation)
    (houtput : (perform w invocation.command).output = .ok output) :
    (run w words).code = 0 ∧ (run w words).output = output := by
  simp [run, hwords, conclude, houtput]

/-- A run of a command line with the options and the message of a transform that succeeds. -/
theorem run_of_gives {enctype keyText dataText : String} {ivText : Option String}
    {words : List String}
    (hwords : Writes d.verb (requestOptions enctype keyText ivText) [dataText] words)
    (henctype : e.Spells enctype) (hkey : Text.Hex.Spells keyText key)
    (hiv : ∀ text ∈ ivText, ∃ iv, Text.Hex.Spells text iv)
    (hdata : Text.Hex.Spells dataText data) (hstate : startState e ivText = .ok state)
    (hgives : e.provider.Gives d ⟨e, key⟩ state data result chain) :
    (run w words).code = 0 ∧ (run w words).lines = shown result chain := by
  -- no value starts with a hyphen, so all of them may stand in words of their own
  have hvalues : ∀ o ∈ requestOptions enctype keyText ivText, Word.ofText o.2 = .plain o.2 := by
    intro o ho
    rcases List.mem_cons.1 ho with rfl | ho
    · exact Word.ofText_of_head? henctype.head?_ne_hyphen
    · rcases List.mem_cons.1 ho with rfl | ho
      · exact ofText_of_spells hkey
      · rcases List.mem_map.1 ho with ⟨text, htext, rfl⟩
        rcases hiv text (Option.mem_toList.1 htext) with ⟨iv, hspells⟩
        exact ofText_of_spells hspells
  have hparse := parse_of_writes hwords hvalues (ofText_of_spells hdata)
  have houtput := output_performTransform (w := w) ⟨enctype, keyText, ivText, .text dataText⟩
    (Enctype.parse?_eq_some_iff.2 henctype) (readHex_of_spells hkey .key)
    (readHex_of_spells hdata .data) hstate hgives
  have hperform : perform w (directed d ⟨enctype, keyText, ivText, .text dataText⟩) =
      performTransform w d ⟨enctype, keyText, ivText, .text dataText⟩ := by
    cases d with
    | encrypt => rfl
    | decrypt => rfl
  rw [← hperform] at houtput
  rcases run_of_output hparse houtput with ⟨hcode, hout⟩
  exact ⟨hcode, lines_eq_shown hout⟩

/-! ## Two runs -/

section Runs

variable {enctype keyText dataText : String} {ivText : Option String}

/-- A run of each direction with the same options, the second one on the first line of the first,
if the one direction takes back what the other one has made of the message. -/
theorem runs_of_gives (henctype : e.Spells enctype) (hkey : Text.Hex.Spells keyText key)
    (hiv : ∀ text ∈ ivText, ∃ iv, Text.Hex.Spells text iv)
    (hdata : Text.Hex.Spells dataText data) (hstate : startState e ivText = .ok state)
    (hencrypt : e.provider.Gives .encrypt ⟨e, key⟩ state data result chain)
    (hdecrypt : e.provider.Gives .decrypt ⟨e, key⟩ state result data chain) :
    let options := requestOptions enctype keyText ivText
    (∀ w words, Writes "encrypt" options [dataText] words →
        (run w words).code = 0 ∧ (run w words).lines = shown result chain) ∧
      ∀ w words, Writes "decrypt" options [Text.Hex.encode result] words →
        (run w words).code = 0 ∧ (run w words).lines = shown data chain := by
  intro options
  constructor
  · intro w words hwords
    exact run_of_gives (d := .encrypt) hwords henctype hkey hiv hdata hstate hencrypt
  · intro w words hwords
    have hresult := Text.Hex.spells_encode result
    exact run_of_gives (d := .decrypt) hwords henctype hkey hiv hresult hstate hdecrypt

theorem exists_gives_of_des (hdes : e.provider = .des) (hkey : key.length = 8)
    (hiv : ∀ text ∈ ivText, ∃ iv, Text.Hex.Spells text iv ∧ iv.length = 8)
    (hdata : data.length % 8 = 0) :
    ∃ state result iv, startState e ivText = .ok state ∧ iv.length = 8 ∧
      e.provider.Gives .encrypt ⟨e, key⟩ state data result (some iv) ∧
      e.provider.Gives .decrypt ⟨e, key⟩ state result data (some iv) := by
  have hstart : ∃ iv, iv.length = 8 ∧ startState e ivText = .ok (.iv iv) := by
    cases ivText with
    | none =>
      -- the cipher's own state is a chaining value of zeros
      refine ⟨DesCbc.emptyBlock, rfl, ?_⟩
      simp only [startState, hdes, Provider.initState, DesCbc.freshState]
    | some text =>
      rcases hiv text rfl with ⟨iv, hspells, hlength⟩
      have hblock : ¬Provider.des.info.blockSize = 1 := by decide
      refine ⟨iv, hlength, ?_⟩
      simp only [startState, hdes, if_neg hblock, readHex_of_spells hspells, Except.map]
  rcases hstart with ⟨start, hlength, hstart⟩
  rcases DesCbc.exists_gives ⟨e, key⟩ hkey hlength hdata with
    ⟨result, iv, hiv, hencrypt, hdecrypt⟩
  rw [hdes]
  exact ⟨.iv start, result, iv, hstart, hiv, hencrypt, hdecrypt⟩

theorem exists_gives_of_arcfour (harcfour : e.provider = .arcfour) (hkey : key.length = 16)
    (data : List UInt8) :
    ∃ state result, startState e none = .ok state ∧
      e.provider.Gives .encrypt ⟨e, key⟩ state data result none ∧
      e.provider.Gives .decrypt ⟨e, key⟩ state result data none := by
  have hstart : startState e none = .ok ArcfourStream.freshState := by
    simp only [startState, harcfour, Provider.initState]
  rcases ArcfourStream.exists_gives ⟨e, key⟩ hkey data with
    ⟨result, hencrypt, hdecrypt⟩
  rw [harcfour]
  exact ⟨_, result, hstart, hencrypt, hdecrypt⟩

end Runs

/-- For every spelling of a type of the two ciphers, every key of the right length, every message
that the cipher accepts and, for the block cipher, with an initial value or without one: encryption
succeeds, and decryption of the first line that it prints, with the same options, succeeds and
prints the bytes of the message on its first line. The block cipher shows the same chaining value on
a second line of both runs, and the stream cipher shows none. The words of the command lines may
stand in any order, and nothing in the surroundings matters. -/
theorem run_decrypt_run_encrypt {e : Enctype} {enctype keyText dataText : String}
    {ivText : Option String} {key data : List UInt8}
    (hcipher : e.provider = .des ∨ e.provider = .arcfour) (henctype : e.Spells enctype)
    (hkey : Text.Hex.Spells keyText key) (hlength : key.length = e.provider.info.keyLength)
    (hiv : ∀ text ∈ ivText, e.provider = .des ∧
      ∃ iv, Text.Hex.Spells text iv ∧ iv.length = 8)
    (hdata : Text.Hex.Spells dataText data)
    (hwhole : data.length % e.provider.info.blockSize = 0) :
    let options := requestOptions enctype keyText ivText
    ∃ first others,
      (∀ w words, Writes "encrypt" options [dataText] words →
        (run w words).code = 0 ∧ (run w words).lines = first :: others) ∧
      (∀ w words, Writes "decrypt" options [first] words →
        (run w words).code = 0 ∧ (run w words).lines = Text.Hex.encode data :: others) ∧
      (e.provider = .des →
        ∃ iv, iv.length = 8 ∧ others = ["iv: " ++ Text.Hex.encode iv]) ∧
      (e.provider = .arcfour → others = []) := by
  intro options
  -- the two ciphers differ in the state they start with and in what they show of the last one
  have hspells : ∀ text ∈ ivText, ∃ iv, Text.Hex.Spells text iv := by
    intro text htext
    rcases (hiv text htext).2 with ⟨iv, hspells, -⟩
    exact ⟨iv, hspells⟩
  rcases hcipher with hdes | harcfour
  · rw [hdes] at hlength hwhole
    rcases exists_gives_of_des hdes hlength (fun text htext => (hiv text htext).2) hwhole with
      ⟨state, result, iv, hstate, hivLength, hencrypt, hdecrypt⟩
    rcases runs_of_gives henctype hkey hspells hdata hstate hencrypt hdecrypt with
      ⟨hsent, hreceived⟩
    refine ⟨Text.Hex.encode result, ["iv: " ++ Text.Hex.encode iv], hsent, hreceived, ?_, ?_⟩
    · intro _
      exact ⟨iv, hivLength, rfl⟩
    · intro harcfour
      rw [hdes] at harcfour
      cases harcfour
  · rw [harcfour] at hlength
    -- an initial value would not be taken
    have hnone : ivText = none := by
      cases ivText with
      | none => rfl
      | some text =>
        have hdes := (hiv text rfl).1
        rw [harcfour] at hdes
        cases hdes
    subst hnone
    rcases exists_gives_of_arcfour harcfour hlength data with
      ⟨state, result, hstate, hencrypt, hdecrypt⟩
    rcases runs_of_gives henctype hkey hspells hdata hstate hencrypt hdecrypt with
      ⟨hsent, hreceived⟩
    refine ⟨Text.Hex.encode result, [], hsent, hreceived, ?_, fun _ => rfl⟩
    intro hdes
    rw [harcfour] at hdes
    cases hdes

/-- A name and digits in odd case, blanks around the message, and options in another order and in
both forms. -/
theorem run_decrypt_run_encrypt_mixed_case :
    ∃ first others,
      (∀ w, (run w ["encrypt", "--key=0123456789abCDEF", " 4E6F772069732074\t", "--enctype",
          "DES-cbc-MD5", "--iv", "1234567890ABCDEF"]).lines = first :: others) ∧
      ∀ w, (run w ["decrypt", "--iv=1234567890ABCDEF", "--enctype", "DES-cbc-MD5", first, "--key",
          "0123456789abCDEF"]).lines = "4e6f772069732074" :: others := by
  have henctype : Enctype.desCbcMd5.Spells "DES-cbc-MD5" := .name (by decide)
  have hkey : Text.Hex.Spells "0123456789abCDEF"
      [0x01, 0x23, 0x45, 0x67, 0x89, 0xAB, 0xCD, 0xEF] :=
    ⟨[], "0123456789abCDEF".toList, [], by decide, by decide, by decide, by decide⟩
  have hiv : ∀ text ∈ some "1234567890ABCDEF", Enctype.desCbcMd5.provider = .des ∧
      ∃ iv, Text.Hex.Spells text iv ∧ iv.length = 8 := by
    rintro text ⟨⟩
    refine ⟨rfl, [0x12, 0x34, 0x56, 0x78, 0x90, 0xAB, 0xCD, 0xEF], ?_, rfl⟩
    exact ⟨[], "1234567890ABCDEF".toList, [], by decide, by decide, by decide, by decide⟩
  have hdata : Text.Hex.Spells " 4E6F772069732074\t"
      [0x4E, 0x6F, 0x77, 0x20, 0x69, 0x73, 0x20, 0x74] :=
    ⟨[' '], "4E6F772069732074".toList, ['\t'], by decide, by decide, by decide, by decide⟩
  rcases run_decrypt_run_encrypt (.inl rfl) henctype hkey rfl hiv hdata rfl with
    ⟨first, others, hsent, hreceived, -, -⟩
  refine ⟨first, others, ?_, ?_⟩
  · intro w
    refine (hsent w _ ⟨[.attached "key" "0123456789abCDEF", .operand " 4E6F772069732074\t",
      .separate "enctype" "DES-cbc-MD5", .separate "iv" "1234567890ABCDEF"], ?_, rfl, rfl⟩).2
    decide
  · intro w
    refine (hreceived w _ ⟨[.attached "iv" "1234567890ABCDEF", .separate "enctype" "DES-cbc-MD5",
      .operand first, .separate "key" "0123456789abCDEF"], ?_, rfl, rfl⟩).2
    change [("iv", "1234567890ABCDEF"), ("enctype", "DES-cbc-MD5"),
      ("key", "0123456789abCDEF")].Perm _
    decide

end CommandLine
end Kerberos
