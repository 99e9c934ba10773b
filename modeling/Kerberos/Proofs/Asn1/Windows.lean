import Kerberos.Proofs.Asn1.Reader

/-!
# Windows within windows

A window is opened on the bytes that come next, and while it is open the buffer around it waits. When
it is closed that buffer takes over its cursor. However deep windows are nested, what is read follows
without a gap where the first of them was opened, and ends inside it; closing that one moves the
buffer past just what was read. Reads that ask for no more bytes than the window has do not notice
it. Main statement: `windows_confine_reads`.
-/

namespace Kerberos
namespace Asn1

/-! ## Reads one after the other -/

/-- An item that was read, with the position of the cursor before it. -/
structure Read where
  position : Nat
  item : Item
  deriving DecidableEq

/-- Whether some reads follow one another without a gap from one position of the data to another, each
of them with the bytes that stand at its position. -/
inductive Follows (data : List UInt8) : Nat → List Read → Nat → Prop
  | nil (start : Nat) : Follows data start [] start
  | cons {start stop : Nat} {item : Item} {rest : List Read}
      (hbytes : item.bytes = (data.drop start).take item.bytes.length)
      (hrest : Follows data (start + item.bytes.length) rest stop) :
      Follows data start (⟨start, item⟩ :: rest) stop

namespace Follows

variable {data : List UInt8} {start middle stop : Nat} {first second reads : List Read}

theorem append (h : Follows data start first middle) (h' : Follows data middle second stop) :
    Follows data start (first ++ second) stop := by
  induction h with
  | nil => exact h'
  | cons hbytes _ ih => exact .cons hbytes (ih h')

theorem stop_eq (h : Follows data start reads stop) :
    stop = start + (reads.flatMap (·.item.bytes)).length := by
  induction h with
  | nil => rfl
  | cons _ _ ih => rw [ih, List.flatMap_cons, List.length_append, Nat.add_assoc]

theorem mem_range (h : Follows data start reads stop) :
    ∀ r ∈ reads, start ≤ r.position ∧ r.position + r.item.bytes.length ≤ stop := by
  induction h with
  | nil => exact fun r hr => absurd hr List.not_mem_nil
  | @cons start stop item rest _ hrest ih =>
    intro r hr
    rcases List.mem_cons.1 hr with rfl | hlater
    · refine ⟨Nat.le_refl _, ?_⟩
      rw [hrest.stop_eq]
      exact Nat.le_add_right _ _
    · rcases ih r hlater with ⟨hstart, hstop⟩
      exact ⟨Nat.le_trans (Nat.le_add_right _ _) hstart, hstop⟩

end Follows

/-! ## Opening and closing -/

namespace Buffer

variable {b w other : Buffer} {n : Nat}

/-- The window on the next `n` bytes of a buffer. -/
def opened (b : Buffer) (n : Nat) : Buffer :=
  ⟨b.storage, b.next, b.next + n, b.next⟩

theorem window_of_le (h : b.WellFormed) (hkind : b.isWrapped = true) (hn : n ≤ b.remaining) :
    b.window n = .ok (b.opened n) := by
  have hlimit : ¬b.limit < b.next + n := Nat.not_lt_of_le (h.next_add_le_limit hn)
  cases hstorage : b.storage with
  | empty => simp [isWrapped, hstorage] at hkind
  | owned room => simp [isWrapped, hstorage] at hkind
  | wrapped data => simp only [window, opened, hstorage, if_neg hlimit]

theorem eq_opened_of_window (h : b.window n = .ok w) : w = b.opened n ∧ b.next + n ≤ b.limit := by
  cases hstorage : b.storage with
  | empty => simp [window, hstorage] at h
  | owned room => simp [window, hstorage] at h
  | wrapped data =>
    simp only [window, hstorage] at h
    by_cases hlarge : b.limit < b.next + n
    · rw [if_pos hlarge] at h
      cases h
    · rw [if_neg hlarge] at h
      cases h
      exact ⟨by rw [opened, hstorage], Nat.le_of_not_lt hlarge⟩

/-- A cursor between the limits is taken over as it is. -/
theorem sync_eq (hbase : b.base ≤ other.next) (hlimit : other.next ≤ b.limit) :
    b.sync other = { b with next := other.next } := by
  rw [sync, Nat.min_eq_left hlimit, Nat.max_eq_right hbase]

end Buffer

/-! ## Windows that are open -/

/-- The window that is used, and the buffers around it that wait, the innermost first. -/
structure Nest where
  active : Buffer
  around : List Buffer

namespace Nest

/-- What is done next: reading in the innermost window, opening another one in it, or closing it. -/
inductive Move
  | read (shape : Item.Shape)
  | enter (n : Nat)
  | leave

/-- The window in which all others were opened. -/
def outer (s : Nest) : Buffer :=
  s.around.getLastD s.active

/-- A window that is too large is not opened, and the outermost one is not closed. -/
def step (s : Nest) : Move → Nest
  | .read shape => { s with active := (Item.remove s.active shape).after }
  | .enter n =>
    match s.active.window n with
    | .ok w => ⟨w, s.active :: s.around⟩
    | .error _ => s
  | .leave =>
    match s.around with
    | [] => s
    | parent :: rest => ⟨parent.sync s.active, rest⟩

/-- What a move reads, if anything. -/
def reads (s : Nest) : Move → List Read
  | .read shape =>
    match (Item.remove s.active shape).answer with
    | .ok item => [⟨s.active.next, item⟩]
    | .error _ => []
  | .enter _ => []
  | .leave => []

def run (s : Nest) : List Move → Nest
  | [] => s
  | move :: rest => run (s.step move) rest

/-- All that some moves read. -/
def trace (s : Nest) : List Move → List Read
  | [] => []
  | move :: rest => s.reads move ++ trace (s.step move) rest

/-- Whether windows are nested in `w`: each of them was opened at the cursor of the one around it and
ends inside that one, and the outermost one is `w` but for its cursor. -/
inductive Inside (w : Buffer) : Nest → Prop
  | outermost {next : Nat} (hbase : w.base ≤ next) (hnext : next ≤ w.limit) :
      Inside w ⟨{ w with next }, []⟩
  | within {parent : Buffer} {around : List Buffer} {limit next : Nat}
      (h : Inside w ⟨parent, around⟩) (hbase : parent.next ≤ next) (hnext : next ≤ limit)
      (hlimit : limit ≤ parent.limit) :
      Inside w ⟨⟨parent.storage, parent.next, limit, next⟩, parent :: around⟩

namespace Inside

variable {w parent : Buffer} {s : Nest}

theorem storage_eq (h : Inside w s) : s.active.storage = w.storage := by
  induction h with
  | outermost => rfl
  | within _ _ _ _ ih => exact ih

theorem base_le_next (h : Inside w s) : s.active.base ≤ s.active.next := by
  cases h with
  | outermost hbase _ => exact hbase
  | within _ hbase _ _ => exact hbase

theorem next_le_limit (h : Inside w s) : s.active.next ≤ s.active.limit := by
  cases h with
  | outermost _ hnext => exact hnext
  | within _ _ hnext _ => exact hnext

theorem limit_le (h : Inside w s) : s.active.limit ≤ w.limit := by
  induction h with
  | outermost => exact Nat.le_refl _
  | within _ _ _ hlimit ih => exact Nat.le_trans hlimit ih

/-- The outermost window has not changed but for its cursor, which is between its limits. -/
theorem outer_eq (h : Inside w s) :
    ∃ next, w.base ≤ next ∧ next ≤ w.limit ∧ s.outer = { w with next } := by
  induction h with
  | @outermost next hbase hnext => exact ⟨next, hbase, hnext, rfl⟩
  | @within parent around limit next _ _ _ _ ih =>
    rcases ih with ⟨next', hbase, hnext, houter⟩
    refine ⟨next', hbase, hnext, ?_⟩
    rw [← houter]
    cases around <;> rfl

theorem wellFormed (h : Inside w s) (hw : w.WellFormed) (hkind : w.isWrapped = true) :
    s.active.WellFormed := by
  refine ⟨h.base_le_next, h.next_le_limit, ?_, ?_⟩
  · rw [h.storage_eq]
    exact Nat.le_trans h.limit_le hw.limit_le_length
  · intro room hroom
    rw [h.storage_eq] at hroom
    simp [Buffer.isWrapped, hroom] at hkind

/-- The cursor of the innermost window may be anywhere between its limits. -/
theorem move (h : Inside w s) {next : Nat} (hbase : s.active.base ≤ next)
    (hnext : next ≤ s.active.limit) : Inside w { s with active := { s.active with next } } := by
  cases h with
  | outermost => exact .outermost hbase hnext
  | within hparent _ _ hlimit => exact .within hparent hbase hnext hlimit

/-! ### One move -/

/-- A move keeps windows nested, and reads what stands at the cursor. -/
theorem step (h : Inside w s) (hw : w.WellFormed) (hkind : w.isWrapped = true) (m : Move) :
    Inside w (s.step m) ∧
      Follows w.storage.bytes s.active.next (s.reads m) (s.step m).active.next := by
  have hactive : s.active.WellFormed := h.wellFormed hw hkind
  cases m with
  | read shape =>
    rcases Item.upcoming_returned hactive shape with ⟨hbytes, hafter⟩
    have hinside : Inside w (s.step (.read shape)) := by
      simp only [Nest.step, hafter]
      exact h.move (Nat.le_add_right_of_le h.base_le_next) (hactive.next_add_le_limit hbytes.fits)
    refine ⟨hinside, ?_⟩
    have hslice := hbytes.eq_slice
    rw [Buffer.slice, h.storage_eq] at hslice
    simp only [Nest.step, Nest.reads, hafter]
    cases hanswer : (Item.remove s.active shape).answer with
    | error e => exact .nil _
    | ok item =>
      rw [hanswer] at hslice
      exact .cons hslice (.nil _)
  | enter n =>
    simp only [Nest.step, Nest.reads]
    cases hwindow : s.active.window n with
    | error e => exact ⟨h, .nil _⟩
    | ok opened =>
      rcases Buffer.eq_opened_of_window hwindow with ⟨rfl, hlimit⟩
      -- the new window starts where the one around it stands
      exact ⟨.within h (Nat.le_refl _) (Nat.le_add_right _ _) hlimit, .nil _⟩
  | leave =>
    cases h with
    | outermost hbase hnext => exact ⟨.outermost hbase hnext, .nil _⟩
    | @within parent around limit next hparent hbase hnext hlimit =>
      -- the buffer around it has waited where the window was opened
      have hparentBase : parent.base ≤ next := Nat.le_trans hparent.base_le_next hbase
      have hparentLimit : next ≤ parent.limit := Nat.le_trans hnext hlimit
      have hsync : parent.sync ⟨parent.storage, parent.next, limit, next⟩ = { parent with next } :=
        Buffer.sync_eq hparentBase hparentLimit
      simp only [Nest.step, Nest.reads, hsync]
      exact ⟨hparent.move hparentBase hparentLimit, .nil _⟩

/-! ### Any moves -/

/-- Moves keep windows nested, and what they read follows without a gap. -/
theorem run (h : Inside w s) (hw : w.WellFormed) (hkind : w.isWrapped = true)
    (moves : List Move) :
    Inside w (s.run moves) ∧
      Follows w.storage.bytes s.active.next (s.trace moves) (s.run moves).active.next := by
  -- on the moves, for the windows that those before them have left open
  induction moves generalizing s with
  | nil => exact ⟨h, .nil _⟩
  | cons m rest ih =>
    rcases h.step hw hkind m with ⟨hstep, hread⟩
    rcases ih hstep with ⟨hrun, hreads⟩
    exact ⟨hrun, hread.append hreads⟩

end Inside

end Nest

/-! ## Reading through a window and without it -/

/-- The number of bytes that some calls ask for together. -/
def Item.Shape.total : List Item.Shape → Nat
  | [] => 0
  | shape :: rest => shape.size + total rest

/-- As long as two buffers over the same bytes have enough of them, a call does the same on both. -/
theorem Item.answer_remove_eq {b b' : Buffer} {shape : Item.Shape}
    (hstorage : b'.storage = b.storage) (hnext : b'.next = b.next)
    (hroom : shape.size ≤ b.remaining) (hroom' : shape.size ≤ b'.remaining) :
    (Item.remove b' shape).answer = (Item.remove b shape).answer := by
  have hslice : b'.slice b'.next shape.size = b.slice b.next shape.size := by
    rw [Buffer.slice, Buffer.slice, hstorage, hnext]
  rw [Item.remove_eq, Item.remove_eq, if_neg (Nat.not_lt_of_le hroom),
    if_neg (Nat.not_lt_of_le hroom'), hslice]
  cases Item.ofBytes? shape (b.slice b.next shape.size) <;> rfl

theorem Item.length_returned_le {b : Buffer} (h : b.WellFormed) (shape : Item.Shape) :
    (Item.returned (Item.remove b shape).answer).length ≤ shape.size := by
  rcases hcall : Item.remove b shape with ⟨answer, b'⟩
  cases answer with
  | error e => exact Nat.zero_le _
  | ok item =>
    rcases (Item.remove_eq_ok_iff h).1 hcall with ⟨-, hshape, -, -⟩
    exact Nat.le_of_eq (Item.length_bytes_of_shape_eq hshape)

namespace Buffer

/-- The same of any calls, as long as the bytes they ask for together are there. -/
theorem answers_eq {b b' : Buffer} (h : b.WellFormed) (h' : b'.WellFormed)
    (hstorage : b'.storage = b.storage) (hnext : b'.next = b.next) {shapes : List Item.Shape}
    (hroom : Item.Shape.total shapes ≤ b.remaining)
    (hroom' : Item.Shape.total shapes ≤ b'.remaining) :
    b'.answers shapes = b.answers shapes := by
  -- on the calls, for all buffers over the same bytes that have enough of them
  induction shapes generalizing b b' with
  | nil => rfl
  | cons shape rest ih =>
    rw [Item.Shape.total] at hroom hroom'
    have hanswer : (Item.remove b' shape).answer = (Item.remove b shape).answer :=
      Item.answer_remove_eq hstorage hnext (by omega) (by omega)
    rcases Item.upcoming_returned h shape with ⟨hbytes, hafter⟩
    rcases Item.upcoming_returned h' shape with ⟨hbytes', hafter'⟩
    -- no call returns more than it asks for, so the rest is still there for those after it
    have hread := Item.length_returned_le h shape
    rw [hanswer] at hbytes' hafter'
    have hwell := h.advance hbytes.fits
    have hwell' := h'.advance hbytes'.fits
    rw [answers, answers, hanswer, hafter, hafter']
    refine congrArg _ (ih hwell hwell' hstorage ?_ ?_ ?_)
    · simp only [advance, hnext]
    · rw [remaining_advance]
      omega
    · rw [remaining_advance]
      omega

variable {p : Buffer} {n : Nat}

theorem WellFormed.opened (h : p.WellFormed) (hkind : p.isWrapped = true) (hn : n ≤ p.remaining) :
    (p.opened n).WellFormed :=
  h.window (window_of_le h hkind hn)

theorem remaining_opened (h : p.WellFormed) (hkind : p.isWrapped = true) (hn : n ≤ p.remaining) :
    (p.opened n).remaining = n := by
  rw [(h.opened hkind hn).remaining_eq, Buffer.opened, Nat.add_sub_cancel_left]

/-- What a window has read and what remains make up all of it. -/
theorem length_add_remaining_opened (h : p.WellFormed) (hkind : p.isWrapped = true)
    (hn : n ≤ p.remaining) {next : Nat} (hbase : p.next ≤ next) (hnext : next ≤ p.next + n) :
    { p.opened n with next }.length + { p.opened n with next }.remaining = n := by
  rw [((h.opened hkind hn).move hbase hnext).remaining_eq]
  simp only [length, Buffer.opened]
  omega

/-- The cursor of a window is taken over as it is. -/
theorem sync_opened (h : p.WellFormed) (hn : n ≤ p.remaining) {next : Nat} (hbase : p.next ≤ next)
    (hnext : next ≤ p.next + n) : p.sync { p.opened n with next } = { p with next } :=
  sync_eq (Nat.le_trans h.base_le_next hbase) (Nat.le_trans hnext (h.next_add_le_limit hn))

/-- Closing a window in which as much was asked for as it has leaves the buffer as the same calls
would have left it. -/
theorem sync_afterAll_opened (h : p.WellFormed) (hkind : p.isWrapped = true) (hn : n ≤ p.remaining)
    {shapes : List Item.Shape} (hsum : Item.Shape.total shapes ≤ n) :
    (p.opened n).answers shapes = p.answers shapes ∧
      p.sync ((p.opened n).afterAll shapes) = p.afterAll shapes := by
  have hopened : (p.opened n).WellFormed := h.opened hkind hn
  have hsize : (p.opened n).remaining = n := remaining_opened h hkind hn
  have hanswers : (p.opened n).answers shapes = p.answers shapes := by
    refine answers_eq h hopened rfl rfl (Nat.le_trans hsum hn) ?_
    rwa [hsize]
  refine ⟨hanswers, ?_⟩
  rcases upcoming_returnedBytes h shapes with ⟨-, hafter⟩
  rcases upcoming_returnedBytes hopened shapes with ⟨hbytes, hafter'⟩
  have hfits := hbytes.fits
  rw [hsize] at hfits
  have hsame : (p.opened n).returnedBytes shapes = p.returnedBytes shapes := by
    rw [returnedBytes, returnedBytes, hanswers]
  rw [hafter, hafter', ← hsame]
  exact sync_opened h hn (Nat.le_add_right _ _) (Nat.add_le_add_left hfits _)

section Nested

variable {s : Nest}

theorem length_add_remaining_outer (h : p.WellFormed) (hkind : p.isWrapped = true)
    (hn : n ≤ p.remaining) (hinside : Nest.Inside (p.opened n) s) :
    s.outer.length + s.outer.remaining = n := by
  rcases hinside.outer_eq with ⟨next, hbase, hnext, houter⟩
  rw [houter]
  exact length_add_remaining_opened h hkind hn hbase hnext

/-- When all windows in it are closed, the outermost one stands where the last read ended. -/
theorem sync_outer (h : p.WellFormed) (hn : n ≤ p.remaining)
    (hinside : Nest.Inside (p.opened n) s) (hclosed : s.around = []) {read : Nat}
    (hread : s.active.next = p.next + read) :
    read ≤ n ∧ s.outer.length = read ∧ p.sync s.outer = p.advance read := by
  have houter : s.outer = s.active := by
    rw [Nest.outer, hclosed]
    rfl
  rcases hinside.outer_eq with ⟨next, hbase, hnext, hmoved⟩
  have hposition : next = p.next + read := by
    rw [← hread, ← houter, hmoved]
  have hend : next ≤ p.next + n := hnext
  refine ⟨by omega, ?_, ?_⟩
  · rw [hmoved, hposition]
    exact Nat.add_sub_cancel_left _ _
  · rw [hmoved, sync_opened h hn hbase hnext, hposition]
    rfl

end Nested

/-- A window on the next bytes of a buffer that reads can be opened if there are so many. Whatever is
read in it and in windows within it follows without a gap where the window was opened and ends inside
it, and what it has read and what remains make up all of it at any time. Closing it when no other
window is open in it moves the buffer past just what was read and changes nothing else, so the next
call reads on behind it. Calls that ask for no more bytes than the window has have the same answers
and leave the buffer the same when they are made on it directly. -/
theorem windows_confine_reads (hp : p.Reachable) (hkind : p.isWrapped = true)
    (hn : n ≤ p.remaining) :
    ∃ w, p.window n = .ok w ∧
      (∀ moves : List Nest.Move,
        let s := Nest.run ⟨w, []⟩ moves
        let reads := Nest.trace ⟨w, []⟩ moves
        Follows p.storage.bytes p.next reads s.active.next ∧
          (∀ r ∈ reads, p.next ≤ r.position ∧ r.position + r.item.bytes.length ≤ p.next + n) ∧
          s.outer.length + s.outer.remaining = n ∧
          (s.around = [] →
            let p' := p.sync s.outer
            let read := (reads.flatMap (·.item.bytes)).length
            s.outer.length = read ∧ read ≤ n ∧ p' = { p with next := p.next + read } ∧
              ∀ shape item b', Item.remove p' shape = ⟨.ok item, b'⟩ ↔
                shape.size ≤ p.remaining - read ∧ item.shape = shape ∧
                  item.bytes = (p.storage.bytes.drop (p.next + read)).take shape.size ∧
                  b' = p'.advance shape.size)) ∧
      ∀ shapes : List Item.Shape, Item.Shape.total shapes ≤ n →
        w.answers shapes = p.answers shapes ∧ p.sync (w.afterAll shapes) = p.afterAll shapes := by
  have h : p.WellFormed := hp.wellFormed
  refine ⟨p.opened n, window_of_le h hkind hn, ?_, ?_⟩
  · intro moves s reads
    have hopened : (p.opened n).WellFormed := h.opened hkind hn
    have hstart : Nest.Inside (p.opened n) ⟨p.opened n, []⟩ :=
      .outermost (Nat.le_refl _) hopened.next_le_limit
    rcases hstart.run hopened hkind moves with ⟨hinside, hfollows⟩
    have hstop : s.active.next = p.next + (reads.flatMap (·.item.bytes)).length := hfollows.stop_eq
    refine ⟨hfollows, ?_, ?_, ?_⟩
    · intro r hr
      rcases hfollows.mem_range r hr with ⟨hposition, hend⟩
      exact ⟨hposition,
        Nat.le_trans hend (Nat.le_trans hinside.next_le_limit hinside.limit_le)⟩
    · exact length_add_remaining_outer h hkind hn hinside
    · intro hclosed p' read
      rcases sync_outer h hn hinside hclosed hstop with ⟨hread, hlength, hsync⟩
      refine ⟨hlength, hread, hsync, ?_⟩
      intro shape item b'
      have hwell : (p.advance read).WellFormed := h.advance (Nat.le_trans hread hn)
      have hcall : p' = p.advance read := hsync
      rw [hcall, Item.remove_eq_ok_iff hwell, remaining_advance]
      rfl
  · intro shapes hsum
    exact sync_afterAll_opened h hkind hn hsum

/-- A window with two others in it, in which a text that ends within a character is asked for, and more
bytes than there are. -/
theorem windows_confine_reads_nested :
    let p := (wrap [0x30, 0x41, 0xC3, 0xA9, 0x42, 0x43, 0x44]).removeOctet.after
    let moves : List Nest.Move :=
      [.enter 3, .read (.text 2), .read .octet, .enter 2, .read (.text 2), .leave, .read .octet,
        .leave, .read (.octets 1), .read .octet]
    p.Reachable ∧ p.isWrapped = true ∧ 4 ≤ p.remaining ∧ ∃ w, p.window 4 = .ok w ∧
      Nest.trace ⟨w, []⟩ moves = [⟨1, .octet 0x41⟩, ⟨2, .text "é"⟩, ⟨4, .octets [0x42]⟩] ∧
      (Nest.run ⟨w, []⟩ moves).around = [] ∧
      p.sync (Nest.run ⟨w, []⟩ moves).outer = { p with next := 5 } ∧
      w.answers [.octet, .text 2] = p.answers [.octet, .text 2] := by
  intro p moves
  have hp : p.Reachable := .removeOctet (.wrap _)
  have hkind : p.isWrapped = true := rfl
  have hn : 4 ≤ p.remaining := by decide
  rcases windows_confine_reads hp hkind hn with ⟨w, hw, hnested, hdirect⟩
  have hopened : w = p.opened 4 := (eq_opened_of_window hw).1
  have htrace : Nest.trace ⟨w, []⟩ moves =
      [⟨1, .octet 0x41⟩, ⟨2, .text "é"⟩, ⟨4, .octets [0x42]⟩] := by
    rw [hopened]
    decide +kernel
  have hclosed : (Nest.run ⟨w, []⟩ moves).around = [] := by
    rw [hopened]
    decide +kernel
  rcases hnested moves with ⟨-, -, -, hclose⟩
  rcases hclose hclosed with ⟨-, -, hsync, -⟩
  rw [htrace] at hsync
  exact ⟨hp, hkind, hn, w, hw, htrace, hclosed, hsync, (hdirect _ (by decide)).1⟩

end Buffer
end Asn1
end Kerberos
