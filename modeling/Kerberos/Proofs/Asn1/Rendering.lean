import Kerberos.Asn1.Rendering
import Kerberos.Proofs.Asn1.Guarded
import Kerberos.Proofs.Text.HexSpaced
import Kerberos.Proofs.Text.Utf8WellFormed

/-!
# What the renderings of a buffer show

The rendering in hexadecimal shows the encoding in a buffer and nothing else: the encoding is read
back from it. The rendering as text shows all of it where the encoding is UTF-8, and only there. What
a buffer without storage is shown as is no rendering of bytes. Main statement:
`renderings_show_toData`.
-/

namespace Kerberos
namespace Asn1

variable {b : Buffer}

theorem render_of_storage (form : List UInt8 → String) (h : b.hasStorage = true) :
    render form (some b) = form b.toData :=
  if_pos h

theorem render_of_no_storage (form : List UInt8 → String) (h : b.hasStorage = false) :
    render form (some b) = emptyMark := by
  rw [render, h]
  rfl

theorem Buffer.toData_of_no_storage (h : b.hasStorage = false) : b.toData = [] := by
  cases hstorage : b.storage with
  | empty => simp [toData, raw, slice, hstorage, Storage.bytes]
  | owned room => simp [hasStorage, hstorage] at h
  | wrapped data => simp [hasStorage, hstorage] at h

/-! ## In hexadecimal -/

/-- The rendering is the one text that is read as the encoding. -/
theorem decodeSpaced?_eq_toData_iff (h : b.hasStorage = true) (text : String) :
    Text.Hex.decodeSpaced? text = some b.toData ↔ text = renderHex (some b) := by
  rw [renderHex, render_of_storage _ h]
  exact Text.Hex.decodeSpaced?_eq_some_iff

/-- A text that is not read as bytes is no rendering. -/
theorem renderHex_ne (h : b.hasStorage = true) {text : String}
    (htext : Text.Hex.decodeSpaced? text = none) : renderHex (some b) ≠ text := by
  rintro rfl
  rw [(decodeSpaced?_eq_toData_iff h _).2 rfl] at htext
  cases htext

theorem renderHex_ne_nullMark (h : b.hasStorage = true) : renderHex (some b) ≠ nullMark :=
  renderHex_ne h (by decide)

theorem renderHex_ne_emptyMark (h : b.hasStorage = true) : renderHex (some b) ≠ emptyMark :=
  renderHex_ne h (by decide)

theorem renderHex_eq_empty_iff (h : b.hasStorage = true) :
    renderHex (some b) = "" ↔ b.toData = [] := by
  rw [renderHex, render_of_storage _ h]
  exact Text.Hex.encodeSpaced_eq_empty_iff b.toData

/-- Buffers that hold different encodings are shown as different texts. -/
theorem renderHex_ne_renderHex (h : b.hasStorage = true) {b' : Buffer}
    (hdata : b'.toData ≠ b.toData) : renderHex (some b') ≠ renderHex (some b) := by
  cases hstorage : b'.hasStorage with
  | true =>
    rw [renderHex, render_of_storage _ hstorage, render_of_storage _ h]
    exact mt Text.Hex.encodeSpaced_injective hdata
  | false =>
    rw [renderHex, render_of_no_storage _ hstorage]
    exact (renderHex_ne_emptyMark h).symm

/-! ## As text -/

/-- The rendering has the bytes of the encoding if and only if these are UTF-8. -/
theorem encode_renderText_eq_iff (h : b.hasStorage = true) :
    Text.Utf8.encode (renderText (some b)) = b.toData ↔ Text.Utf8.WellFormed b.toData := by
  rw [renderText, render_of_storage _ h]
  exact Text.Utf8.encode_decodeReplacing_eq_iff

/-! ## Every buffer -/

/-- Every buffer that can be reached has an encoding. Where it has storage, the encoding is read back
from the rendering in hexadecimal, cut at its spaces into pairs of upper-case digits, and from no
other text. So this rendering is empty just for the empty encoding, it is that of no buffer with
another encoding, and it is neither of the marks; and the rendering as text has the bytes of the
encoding if and only if these are well-formed UTF-8. Where it has no storage, both renderings are the
mark for that, and the encoding is empty. -/
theorem renderings_show_toData (h : b.Reachable) :
    b.toData? = some b.toData ∧
      (b.hasStorage = true →
        (∀ text, Text.Hex.decodeSpaced? text = some b.toData ↔ text = renderHex (some b)) ∧
          (renderHex (some b) = "" ↔ b.toData = []) ∧
          (∀ b' : Buffer, b'.toData ≠ b.toData → renderHex (some b') ≠ renderHex (some b)) ∧
          renderHex (some b) ≠ "<NULL>" ∧ renderHex (some b) ≠ "<EMPTY>" ∧
          (Text.Utf8.encode (renderText (some b)) = b.toData ↔
            Text.Utf8.WellFormed b.toData)) ∧
      (b.hasStorage = false →
        renderText (some b) = "<EMPTY>" ∧ renderHex (some b) = "<EMPTY>" ∧ b.toData = []) := by
  refine ⟨h.wellFormed.toData?_eq, ?_, ?_⟩
  · intro hstorage
    refine ⟨decodeSpaced?_eq_toData_iff hstorage, renderHex_eq_empty_iff hstorage, ?_,
      renderHex_ne_nullMark hstorage, renderHex_ne_emptyMark hstorage,
      encode_renderText_eq_iff hstorage⟩
    intro b' hdata
    exact renderHex_ne_renderHex hstorage hdata
  · intro hstorage
    exact ⟨render_of_no_storage _ hstorage, render_of_no_storage _ hstorage,
      Buffer.toData_of_no_storage hstorage⟩

/-- Three bytes that were read, the second of which no text can contain there, beside a buffer that
was built with one byte less and one that is new. -/
theorem renderings_show_toData_malformed :
    let b := ((Buffer.wrap [0x41, 0xAB, 0x42, 0x43]).removeOctets 3).after
    let b' := (Buffer.new.insertOctets [0x42, 0xAB]).after
    b.Reachable ∧ b.toData? = some [0x42, 0xAB, 0x41] ∧ b.hasStorage = true ∧
      renderHex (some b) = "42 AB 41" ∧ renderHex (some b') = "42 AB" ∧
      renderHex (some b') ≠ renderHex (some b) ∧ renderText (some b) = "B\uFFFDA" ∧
      ¬Text.Utf8.WellFormed b.toData ∧ renderHex (some .new) = "<EMPTY>" := by
  intro b b'
  have hb : b.Reachable := .removeOctets (.wrap _) 3
  have hstorage : b.hasStorage = true := rfl
  rcases renderings_show_toData hb with ⟨hdata, hshown, -⟩
  rcases hshown hstorage with ⟨hread, -, hother, -, -, htext⟩
  have hhex : "42 AB 41" = renderHex (some b) := (hread _).1 (by decide)
  have hmalformed : ¬Text.Utf8.WellFormed b.toData := by
    rw [← htext]
    decide
  rcases renderings_show_toData .new with ⟨-, -, hmarked⟩
  rcases hmarked rfl with ⟨-, hmark, -⟩
  exact ⟨hb, hdata, hstorage, hhex.symm, by decide, hother b' (by decide), by decide, hmalformed,
    hmark⟩

end Asn1
end Kerberos
