import Kerberos.Proofs.Cipher.DesCbc

/-!
# Decrypting what was encrypted

Decryption from the same starting state restores an encrypted message byte for byte. What matters
of the encrypted message is only the string of its encrypted bytes: it may be cut into segments in
another way before it is decrypted.
-/

namespace Kerberos
namespace DesCbc

namespace Accepted

variable {key : Key} {iv : Option (List UInt8)} {m m' : Message}

theorem of_dataBytes_eq (h : Accepted key iv m)
    (hsame : m'.dataBytes = (transform .encrypt key (iv.map .iv) m).message.dataBytes) :
    Accepted key iv m' := by
  apply h.of_dataLength_eq
  calc
    m'.dataLength = m'.dataBytes.length := (Message.length_dataBytes m').symm
    _ = (transform .encrypt key (iv.map .iv) m).message.dataLength := by
          rw [hsame, Message.length_dataBytes]
    _ = m.dataLength := h.dataLength_transform .encrypt

/-- Decryption gives back the bytes that were encrypted, in whatever segments they arrive. -/
theorem dataBytes_decrypt (h : Accepted key iv m)
    (hsame : m'.dataBytes = (transform .encrypt key (iv.map .iv) m).message.dataBytes) :
    (transform .decrypt key (iv.map .iv) m').message.dataBytes = m.dataBytes := by
  have hwhole : m.dataBytes.length % Des.blockSize = 0 := by
    rw [Message.length_dataBytes]
    exact h.whole_blocks
  calc
    (transform .decrypt key (iv.map .iv) m').message.dataBytes
        = chained .decrypt key (iv.getD emptyBlock) m'.dataBytes :=
          (h.of_dataBytes_eq hsame).dataBytes_transform .decrypt
    _ = chained .decrypt key (iv.getD emptyBlock)
          (chained .encrypt key (iv.getD emptyBlock) m.dataBytes) := by
          rw [hsame, h.dataBytes_transform .encrypt]
    _ = m.dataBytes := chained_decrypt_encrypt key _ hwhole

/-- Both directions leave the same chaining value, the last encrypted block. -/
theorem state_decrypt (h : Accepted key iv m)
    (hsame : m'.dataBytes = (transform .encrypt key (iv.map .iv) m).message.dataBytes) :
    (transform .decrypt key (iv.map .iv) m').state =
      (transform .encrypt key (iv.map .iv) m).state := by
  rw [(h.of_dataBytes_eq hsame).state_transform .decrypt, h.state_transform .encrypt]
  simp only [ciphertext, hsame]

/-- Decryption of an encrypted message in its own segments restores all of them. -/
theorem message_decrypt (h : Accepted key iv m) :
    (transform .decrypt key (iv.map .iv)
      (transform .encrypt key (iv.map .iv) m).message).message = m := by
  apply Message.eq_of_masked_eq
  · rw [(h.of_dataBytes_eq rfl).masked_transform .decrypt, h.masked_transform .encrypt]
  · exact h.dataBytes_decrypt rfl

end Accepted

/-- For every key of eight bytes, every starting state and every message of whole blocks, both
directions succeed, decryption restores the message, and the states left are equal. The bytes are
also restored if the encrypted message is cut into other segments, among whatever others. -/
theorem des_decrypt_encrypt (key : Key) (iv : Option (List UInt8)) (m : Message)
    (hkey : key.length = 8) (hiv : ∀ b ∈ iv, b.length = 8) (hm : m.dataBytes.length % 8 = 0) :
    let sent := Provider.des.encrypt key (iv.map .iv) m
    let received := Provider.des.decrypt key (iv.map .iv) sent.message
    sent.answer = .ok () ∧ received.answer = .ok () ∧ received.message = m ∧
      received.state = sent.state ∧
      ∀ m' : Message, m'.dataBytes = sent.message.dataBytes →
        let received' := Provider.des.decrypt key (iv.map .iv) m'
        received'.answer = .ok () ∧ received'.message.dataBytes = m.dataBytes ∧
          received'.state = sent.state := by
  intro sent received
  have h : Accepted key iv m := by
    refine ⟨hkey, hiv, ?_⟩
    rwa [Message.length_dataBytes] at hm
  refine ⟨h.answer_transform .encrypt, (h.of_dataBytes_eq rfl).answer_transform .decrypt,
    h.message_decrypt, h.state_decrypt rfl, ?_⟩
  intro m' hsame
  exact ⟨(h.of_dataBytes_eq hsame).answer_transform .decrypt, h.dataBytes_decrypt hsame,
    h.state_decrypt hsame⟩

/-- Sixteen bytes in pieces, of which one is empty and one is not encrypted; what is sent arrives
in other pieces. -/
theorem des_decrypt_encrypt_scattered :
    let key : Key := ⟨.desCbcCrc, [0x13, 0x34, 0x57, 0x79, 0x9B, 0xBC, 0xDF, 0xF1]⟩
    let iv : Option (List UInt8) := some [1, 2, 3, 4, 5, 6, 7, 8]
    let m : Message := [⟨.data, [10, 11, 12]⟩, ⟨.signOnly, [99, 98]⟩, ⟨.data, []⟩,
      ⟨.data, [13, 14, 15, 16, 17, 18, 19, 20, 21, 22, 23, 24, 25]⟩]
    let m' : Message := [⟨.data, [208, 200, 33, 102, 10, 166]⟩, ⟨.padding, [0]⟩,
      ⟨.data, [74, 66, 87, 178, 192, 206, 32, 178, 252, 64]⟩]
    key.length = 8 ∧ (∀ b ∈ iv, b.length = 8) ∧ m.dataBytes.length % 8 = 0 ∧
      (Provider.des.decrypt key (iv.map .iv)
        (Provider.des.encrypt key (iv.map .iv) m).message).message = m ∧
      (Provider.des.decrypt key (iv.map .iv) m').message.dataBytes = m.dataBytes := by
  intro key iv m m'
  have hkey : key.length = 8 := by decide
  have hiv : ∀ b ∈ iv, b.length = 8 := by decide
  have hm : m.dataBytes.length % 8 = 0 := by decide
  have hsame : m'.dataBytes = (Provider.des.encrypt key (iv.map .iv) m).message.dataBytes := by
    decide +kernel
  rcases des_decrypt_encrypt key iv m hkey hiv hm with ⟨-, -, hmessage, -, hcut⟩
  exact ⟨hkey, hiv, hm, hmessage, (hcut m' hsame).2.1⟩

end DesCbc
end Kerberos
