import RemoteCall.Host.Background
/-!
# Writing and reading in pieces

The background work writes and reads a connection until nothing more can be done. Between any two
octets somebody else may have a turn. Here a connection writes or reads at most so many octets at a
time; what the background work does is a row of such pieces (`Conversation.run_eq`).
-/

namespace RemoteCall.Conversation

/-- The connection writes at most so many octets of the frame that it is writing. If there is no
such frame it goes on to the next. -/
def writeSome (t : Conversation) (size : Nat) : Conversation :=
  if t.connection.writing.isEmpty then t.step (.wrote 0)
  else
    match t.link.nearWrite (t.connection.writing.take size) with
    | (.wrote count, link) => { t with link }.step (.wrote count)
    | (.failed reason, link) => { t with link }.step (.writeFailed reason)

/-- The connection reads at most so many octets. -/
def readSome (t : Conversation) (size : Nat) : Conversation :=
  match t.link.nearRead size with
  | (.read chunk, link) => { t with link }.step (.received chunk)
  | (.blocked, link) => { t with link }
  | (.finished, link) => { t with link }.step .finished
  | (.failed reason, link) => { t with link }.step (.readFailed reason)

/-- What becomes of a piece of a frame depends on the link. -/
theorem writeSome_of_writing {t : Conversation} (h : ¬t.connection.writing.isEmpty = true)
    (size : Nat) :
    t.writeSome size =
      match t.link.nearWrite (t.connection.writing.take size) with
      | (.wrote count, link) => { t with link }.step (.wrote count)
      | (.failed reason, link) => { t with link }.step (.writeFailed reason) :=
  if_neg h

/-- Nothing changes if the stream takes nothing of a frame. -/
theorem step_wrote_zero {t : Conversation} (hopen : t.connection.isOpen = true)
    (hwriting : t.connection.writing ≠ []) : t.step (.wrote 0) = t := by
  obtain ⟨dispatcher, ⟨endpoint, address, config, phase, writing, queue, inbox⟩, link⟩ := t
  have hadvance : Connection.advance
      ⟨endpoint, address, config, phase, writing.drop 0, queue, inbox⟩ =
      ⟨endpoint, address, config, phase, writing, queue, inbox⟩ := by
    rw [Connection.advance]
    split
    next hnil _ => exact absurd hnil hwriting
    next => rfl
  cases phase with
  | ended => cases hopen
  | connecting => rfl
  | established =>
    rw [step]
    simp only [Connection.step, hadvance]
    rfl

/-- Writing goes on in pieces. -/
theorem write_eq (steps : Nat) (t : Conversation) :
    ∃ sizes : List Nat, t.write steps = sizes.foldl writeSome t := by
  induction steps generalizing t with
  | zero => exact ⟨[], rfl⟩
  | succ steps ih =>
    -- Whatever is written first, what follows goes on in pieces.
    have hnext : ∀ size, ∃ sizes : List Nat,
        (t.writeSome size).write steps = sizes.foldl writeSome t := by
      intro size
      obtain ⟨sizes, hsizes⟩ := ih (t.writeSome size)
      exact ⟨size :: sizes, hsizes⟩
    rw [write]
    split
    · exact ⟨[], rfl⟩
    next hopen =>
      split
      next hempty =>
        split
        · exact ⟨[], rfl⟩
        · have hfirst : t.writeSome 0 = t.step (.wrote 0) := if_pos hempty
          rw [← hfirst]
          exact hnext 0
      next hwriting =>
        have hpiece := writeSome_of_writing hwriting t.connection.writing.length
        rw [List.take_length] at hpiece
        cases hwrite : t.link.nearWrite t.connection.writing with
        | mk outcome link =>
          rw [hwrite] at hpiece
          cases outcome with
          | failed reason => exact ⟨[t.connection.writing.length], hpiece.symm⟩
          | wrote count =>
            cases count with
            | zero =>
              -- The pipe is full: a piece of no octets is as good as none.
              have hsame : { t with link }.step (.wrote 0) = { t with link } :=
                step_wrote_zero (by simpa using hopen) (by simpa using hwriting)
              exact ⟨[t.connection.writing.length], (hpiece.trans hsame).symm⟩
            | succ count => simpa only [hpiece] using hnext t.connection.writing.length

/-- Reading goes on in pieces. -/
theorem read_eq (steps : Nat) (t : Conversation) :
    ∃ sizes : List Nat, t.read steps = sizes.foldl readSome t := by
  induction steps generalizing t with
  | zero => exact ⟨[], rfl⟩
  | succ steps ih =>
    rw [read]
    split
    · exact ⟨[], rfl⟩
    · have hpiece : ∀ t', t.readSome t.connection.config.readSize = t' →
          ∃ sizes : List Nat, t' = sizes.foldl readSome t :=
        fun t' ht' => ⟨[t.connection.config.readSize], ht'.symm⟩
      cases hread : t.link.nearRead t.connection.config.readSize with
      | mk outcome link =>
        cases outcome with
        | read chunk =>
          have hfirst : t.readSome t.connection.config.readSize =
              { t with link }.step (.received chunk) := by rw [readSome, hread]
          obtain ⟨sizes, hsizes⟩ := ih (t.readSome t.connection.config.readSize)
          rw [hfirst] at hsizes
          refine ⟨t.connection.config.readSize :: sizes, ?_⟩
          rw [List.foldl_cons, hfirst]
          exact hsizes
        | blocked => exact hpiece _ (by rw [readSome, hread])
        | finished => exact hpiece _ (by rw [readSome, hread])
        | failed reason => exact hpiece _ (by rw [readSome, hread])

/-- The background work writes pieces, and then reads pieces. -/
theorem run_eq (t : Conversation) :
    ∃ writes reads : List Nat, t.run = reads.foldl readSome (writes.foldl writeSome t) := by
  rw [run]
  split
  · obtain ⟨writes, hwrites⟩ := write_eq (2 * t.connection.queue.length + 4) t
    simp only
    rw [hwrites]
    obtain ⟨reads, hreads⟩ := read_eq ((writes.foldl writeSome t).link.inbound.length + 1)
      (writes.foldl writeSome t)
    exact ⟨writes, reads, hreads⟩
  · exact ⟨[], [], rfl⟩

/-- What every piece preserves, the background work preserves. -/
theorem run_of_pieces {P : Conversation → Prop} (hwrite : ∀ t size, P t → P (writeSome t size))
    (hread : ∀ t size, P t → P (readSome t size)) {t : Conversation} (h : P t) : P t.run := by
  obtain ⟨writes, reads, hrun⟩ := t.run_eq
  have hwrites : P (writes.foldl writeSome t) :=
    List.foldlRecOn (motive := P) writes _ h fun t ht size _ => hwrite t size ht
  rw [hrun]
  exact List.foldlRecOn (motive := P) reads _ hwrites fun t ht size _ => hread t size ht

end RemoteCall.Conversation
