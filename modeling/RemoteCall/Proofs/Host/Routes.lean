import RemoteCall.Proofs.Host.Share
/-!
# Routes

Handlers are registered at endpoints and unregistered. A handler serves an endpoint (`Host.Serves`)
if it was registered there last, and has not been unregistered since. The routes of a host are to the
handlers that serve, in every run (`Host.find?_run_iff`).
-/

namespace RemoteCall.Host

variable {h first : Host} {e : Endpoint} {handler : Handler}

/-- After some turns a handler serves an endpoint: it was registered there with success, and nothing
has been unregistered there since. -/
def Serves (first : Host) (turns : List Turn) (e : Endpoint) (handler : Handler) : Prop :=
  ∃ before after, turns = before ++ .register e handler :: after ∧
    ((first.run before).register e handler).1 = .ok () ∧ .unregister e ∉ after

/-- Nobody serves an endpoint before the first turn. -/
theorem not_serves_nil (first : Host) (e : Endpoint) (handler : Handler) :
    ¬first.Serves [] e handler := by
  rintro ⟨before, after, hturns, -⟩
  simp at hturns

/-- Whether a handler serves an endpoint after one more turn. -/
theorem serves_append_iff (first : Host) (turns : List Turn) (t : Turn) :
    first.Serves (turns ++ [t]) e handler ↔
      (t = .register e handler ∧ ((first.run turns).register e handler).1 = .ok ()) ∨
        (t ≠ .unregister e ∧ first.Serves turns e handler) := by
  constructor
  · rintro ⟨before, after, hturns, hok, hnot⟩
    rcases List.eq_nil_or_concat after with rfl | ⟨after, last, rfl⟩
    · obtain ⟨rfl, hlast⟩ := List.append_inj' hturns rfl
      exact .inl ⟨(List.cons.inj hlast).1, hok⟩
    · -- The registration came before the last turn.
      have hsplit : turns ++ [t] = (before ++ .register e handler :: after) ++ [last] := by
        rw [hturns]
        simp
      obtain ⟨rfl, hlast⟩ := List.append_inj' hsplit rfl
      obtain rfl : t = last := (List.cons.inj hlast).1
      rw [List.concat_eq_append, List.mem_append, not_or, List.mem_singleton] at hnot
      exact .inr ⟨fun ht => hnot.2 ht.symm, before, after, rfl, hok, hnot.1⟩
  · rintro (⟨rfl, hok⟩ | ⟨ht, before, after, rfl, hok, hnot⟩)
    · exact ⟨turns, [], rfl, hok, List.not_mem_nil⟩
    · refine ⟨before, after ++ [t], by simp, hok, ?_⟩
      rw [List.mem_append, not_or, List.mem_singleton]
      exact ⟨hnot, fun h => ht h.symm⟩

/-- Where there is a handler, no other can be registered, and nothing changes. -/
theorem register_of_mem (he : e ∈ h.switchboard.keys) (handler : Handler) :
    h.register e handler = (.error (.failure (.endpointInUse e.toText)), h) := by
  rw [register, Switchboard.register, (h.switchboard.insert?_eq_none_iff e handler).2 he]

/-- Elsewhere a handler can be registered, and is the only new one. -/
theorem register_of_notMem (he : e ∉ h.switchboard.keys) (handler : Handler) :
    ∃ switchboard : Switchboard,
      h.register e handler = (.ok (), { h with switchboard }) ∧
        ∀ e' handler', switchboard.find? e' = some handler' ↔
          e' = e ∧ handler' = handler ∨ h.switchboard.find? e' = some handler' := by
  obtain ⟨s, hs⟩ : ∃ s, h.switchboard.insert? e handler = some s :=
    Option.ne_none_iff_exists'.1 (mt (h.switchboard.insert?_eq_none_iff e handler).1 he)
  refine ⟨s, by rw [register, Switchboard.register, hs], fun e' handler' => ?_⟩
  rw [s.find?_eq_some_iff, ((h.switchboard.insert?_eq_some_iff s e handler).1 hs).2, List.mem_append,
    ← h.switchboard.find?_eq_some_iff, List.mem_singleton, Prod.mk.injEq, or_comm]

/-- Registering succeeds exactly where there is no handler. -/
theorem register_eq_ok_iff : (h.register e handler).1 = .ok () ↔ e ∉ h.switchboard.keys := by
  by_cases he : e ∈ h.switchboard.keys
  · rw [register_of_mem he]
    exact iff_of_false (fun h => by cases h) (not_not.2 he)
  · obtain ⟨s, hs, -⟩ := register_of_notMem he handler
    rw [hs]
    exact iff_of_true rfl he

/-- Only registering and unregistering change the routes. -/
theorem switchboard_turn_eq (hown : ∀ node, h.isOwned node = false) {t : Turn}
    (hregister : ∀ e handler, t ≠ .register e handler) (hunregister : ∀ e, t ≠ .unregister e) :
    (h.turn t).switchboard = h.switchboard := by
  have hturn : (h.turn t).switchboard = (h.surroundings.turn t).switchboard :=
    congrArg Surroundings.switchboard (surroundings_turn hown t)
  rw [hturn]
  cases t with
  | register e handler => exact absurd rfl (hregister e handler)
  | unregister e => exact absurd rfl (hunregister e)
  | build b e config connections =>
    rw [Surroundings.turn]
    split <;> rfl
  | stop => rfl
  | act node a => rfl

/-- The route of an endpoint after a turn. -/
theorem find?_turn_iff (hown : ∀ node, h.isOwned node = false) (t : Turn) :
    (h.turn t).switchboard.find? e = some handler ↔
      (t = .register e handler ∧ (h.register e handler).1 = .ok ()) ∨
        (t ≠ .unregister e ∧ h.switchboard.find? e = some handler) := by
  cases t with
  | register e' handler' =>
    rw [turn]
    by_cases he : e' ∈ h.switchboard.keys
    · rw [register_of_mem he]
      have hnot : ¬(Turn.register e' handler' = .register e handler ∧
          (h.register e handler).1 = .ok ()) := by
        rintro ⟨heq, hok⟩
        cases heq
        exact register_eq_ok_iff.1 hok he
      rw [or_iff_right hnot]
      exact (and_iff_right fun h => by cases h).symm
    · obtain ⟨s, hs, hfind⟩ := register_of_notMem he handler'
      rw [hs, hfind]
      -- The new handler is the one that was to be registered.
      have hnew : (e = e' ∧ handler = handler') ↔
          (Turn.register e' handler' = .register e handler ∧ (h.register e handler).1 = .ok ()) := by
        constructor
        · rintro ⟨rfl, rfl⟩
          exact ⟨rfl, register_eq_ok_iff.2 he⟩
        · rintro ⟨heq, -⟩
          cases heq
          exact ⟨rfl, rfl⟩
      rw [hnew]
      simp
  | unregister e' =>
    show (h.switchboard.erase e').find? e = some handler ↔ _
    rw [Table.find?_erase]
    by_cases he : e = e'
    · simp [he]
    · simp [he, Ne.symm he]
  | build | stop | act =>
    rw [switchboard_turn_eq hown (fun _ _ h => by cases h) (fun _ h => by cases h)]
    simp

/-- The routes are to the handlers that serve. -/
theorem find?_run_iff (hown : ∀ node, first.isOwned node = false)
    (hempty : first.switchboard = .empty) (turns : List Turn) :
    (first.run turns).switchboard.find? e = some handler ↔ first.Serves turns e handler := by
  induction turns using List.reverseRecOn with
  | nil =>
    show first.switchboard.find? e = some handler ↔ _
    rw [hempty]
    exact iff_of_false (fun h => by cases h) (not_serves_nil first e handler)
  | append_singleton turns t ih =>
    rw [serves_append_iff, run_append, ← ih]
    exact find?_turn_iff (isOwned_run hown turns) t

end RemoteCall.Host
