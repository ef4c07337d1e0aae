/-
Bridge.DeliveryTheorems — a published answer reaches the
window.

A phase is published once, so whatever keeps it from the window keeps it
for good. `Shown` follows the newest answer under the shell's counter: it
comes last among the answers in flight, or it is shown. Only a failed tone
can come after it, from the executor's feedback or from the listening
slot, and `Tones` says that such a failure belongs to a check that is
still under way: taking it in stops the session under a new generation,
and the answer is no longer the newest. `Withholds` keeps why the last
pass did not publish what it saw.
-/
import OpenAirCast.Bridge.RuntimeTheorems

namespace OpenAirCast.Bridge

open OpenAirCast.Backend List Projection

namespace Runtime

/-! ## Tones -/

/-- A tone that is asked for or played belongs to the check under way, or
to a generation of the past. -/
structure Tones (s : Runtime) : Prop where
  asked : ∀ generation ∈ toneGenerations s.effects, generation = s.shell.generations.session ∧
      s.shell.hardwareCheck.phase.isUnderWay = true
  played : ∀ pending, s.due.listeningPending = some pending →
    pending.generation ≤ s.shell.generations.session ∧
      (pending.generation = s.shell.generations.session →
        s.shell.hardwareCheck.phase.isUnderWay = true)

variable {pend : VolumePending}

theorem foldl_write_listening_mem (wrs : List EchoWrite) (echo : GenerationEcho)
    (h : (wrs.foldl GenerationEcho.write echo).listeningPending = some pend) :
    .holdListening pend ∈ wrs ∨ echo.listeningPending = some pend := by
  induction wrs generalizing echo with
  | nil => exact .inr h
  | cons w _ ih =>
    rcases ih (echo.write w) h with hmem | hh
    · exact .inl (mem_cons_of_mem _ hmem)
    · cases w with
      | holdListening other =>
        obtain rfl : other = pend := Option.some.inj hh
        exact .inl mem_cons_self
      | recordDiscovery _ | recordSession _ _ | holdGroup _ | holdVolume _ => exact .inr hh

variable {eff : AppEffect}

/-- Only a tone holds the listening slot, under its own generation. -/
theorem holdListening_of_portMove {echo : GenerationEcho} {next : Nat}
    {sent : List CommandEnvelope} {wrs : List EchoWrite}
    (hp : PortMove echo next eff sent wrs)
    (hmem : .holdListening pend ∈ wrs) :
    eff.toneGeneration = some pend.generation := by
  cases hp with
  | aside _ _ _ _ _ ht => exact ht pend hmem
  | session => simp at hmem
  | group other =>
    obtain ⟨_, gen, _⟩ := other
    cases gen <;> simp at hmem
  | busy => simp at hmem

theorem mem_toneGenerations_of_effect {effs : List AppEffect} {g : GenerationId}
    (hmem : eff ∈ effs) (ht : eff.toneGeneration = some g) :
    g ∈ toneGenerations effs := mem_filterMap.mpr ⟨eff, hmem, ht⟩

theorem groupEvents_listening (echo : GenerationEcho) (chans : ReceiptId → Oneshot)
    (snap : DeviceSnapshot) :
    (echo.groupEvents chans snap false).1.listeningPending = echo.listeningPending := by
  have hl := groupEvents_look echo chans snap false
  generalize echo.groupEvents chans snap false = result at hl ⊢
  cases hl <;> rfl

namespace Tones

variable {s s' : Runtime}

theorem frame (h : s.Tones) (hs : s'.shell = s.shell) (he : s'.effects = s.effects)
    (hl : s'.due.listeningPending = s.due.listeningPending) : s'.Tones := by
  constructor
  · rw [hs, he]
    exact h.asked
  · rw [hs, hl]
    exact h.played

theorem turned [Lowercase] (h : s.Tones) (ho : s.Ordered) {ev : AppEvent} {rest : List AppEvent} :
    Tones (s.afterTurn ev rest) := by
  constructor
  · exact fun gen hmem => tone_underWay ho.reachable ev hmem
  · intro pend hh
    obtain ⟨hle, hu⟩ := h.played pend hh
    have hg := (reduce_allocates ho.reachable ev).le
    refine ⟨hle.trans hg, ?_⟩
    intro heq
    -- a tone under the new counter means the counter has not moved
    have hs : (reduce s.shell ev).1.generations.session = s.shell.generations.session :=
      le_antisymm (heq ▸ hle) hg
    exact (reduce_steady ho.reachable ev hs).underWay (hu (heq.trans hs))

theorem executed (h : s.Tones) {eff : AppEffect} {rest : List AppEffect}
    {sent : List CommandEnvelope} {wrs : List EchoWrite} {fed : List AppEvent}
    (hw : s.writes = []) (he : s.effects = eff :: rest)
    (hp : PortMove s.echo s.nextId eff sent wrs) :
    Tones (s.afterEffect rest sent wrs fed) := by
  constructor
  · intro gen hmem
    refine h.asked gen ?_
    obtain ⟨tone, ht, hg⟩ := mem_filterMap.mp hmem
    exact mem_toneGenerations_of_effect (he ▸ mem_cons_of_mem _ ht) hg
  · intro pend hh
    rcases foldl_write_listening_mem wrs s.echo hh with hmem | hold
    · have ht := holdListening_of_portMove hp hmem
      have ha := h.asked pend.generation (mem_toneGenerations_of_effect (he ▸ mem_cons_self) ht)
      exact ⟨ha.1.le, fun _ => ha.2⟩
    · exact h.played pend (by rw [due_of_no_writes hw]; exact hold)

/-- No move plays a tone of a check to come. -/
theorem step [Lowercase] (h : s.Tones) (ho : s.Ordered) {move : Move}
    (hs : Stepped s move s') : s'.Tones := by
  cases hs with
  | same => exact h
  | raised => exact h.frame rfl rfl rfl
  | turned => exact h.turned ho
  | executed _ _ _ _ _ _ _ hw hf hp => exact h.executed hw hf hp
  | wrote _ _ hw => exact h.frame rfl rfl (by simp only [due, hw, foldl_cons])
  | looked => exact h.frame rfl rfl rfl
  | projected => exact h.frame rfl rfl rfl
  | targeted =>
    exact h.frame rfl rfl (foldl_write_listening _ (observeListeningTarget_listening _ _ _))
  | grouped => exact h.frame rfl rfl (foldl_write_listening _ (groupEvents_listening _ _ _))
  | volumed snap =>
    obtain ⟨⟨_, he⟩, -⟩ := volumeEvents_result s.echo s.actor.channels snap false
    exact h.frame rfl rfl (foldl_write_listening _ (by rw [he]))
  | listened snap _ hop =>
    obtain ⟨⟨_, he, hold⟩, -⟩ := listeningEvents_result s.echo s.actor.channels snap false
    refine ⟨h.asked, ?_⟩
    intro pend hh
    rw [due, due_listening_of_open hop, he] at hh
    obtain ⟨old, hl, hg⟩ := hold pend hh
    rw [← hg]
    exact h.played old ((due_listening_of_open hop s.echo).trans hl)
  | flushed => exact h.frame rfl rfl rfl
  | appended => exact h.frame rfl rfl rfl
  | worked => exact h.frame rfl rfl rfl

end Tones

/-! ## What the window shows -/

variable (s : Runtime)

/-- The answers in flight under the shell's counter. -/
def current : List AppEvent :=
  s.inFlight.filter (fun event => event.sessionStamp = some s.shell.generations.session)

/-- Where a published answer is on its way to the window. -/
inductive Shows (s : Runtime) (echo : SessionEcho) : Prop
  /-- A check is under way and its tone has failed: taking that in stops
  the session under a new generation. -/
  | failing (summary : String) (hu : s.shell.hardwareCheck.phase.isUnderWay = true)
      (hm : .controller (.sessionFailed s.shell.generations.session summary) ∈ s.inFlight)
  | coming (before : List AppEvent) (hc : s.current
      = before ++ [.controller (echo.event s.shell.generations.session)])
  | shown (hc : s.current = [])
      (hv : (echo.event s.shell.generations.session).view = some s.shell.view)

/-- The last answer is shown or on its way. -/
def Shown : Prop :=
  ∀ echo, s.projection.session = some (s.shell.generations.session, echo) → s.Shows echo

/-- Nothing stamped with the counter joins the line. -/
theorem current_of_joined {s s' : Runtime} {fed : List AppEvent}
    {produced : List ControllerEvent} (hs : s'.shell = s.shell)
    (hq : s'.queue = s.queue ++ fed) (ho : s'.outbox = s.outbox ++ produced)
    (hf : ∀ ev ∈ fed, ev.sessionStamp ≠ some s.shell.generations.session)
    (hp : ∀ ev ∈ produced, stampOf ev ≠ some s.shell.generations.session) :
    s'.current = s.current := by
  have hn : fed.filter (fun ev =>
      ev.sessionStamp = some s.shell.generations.session) = [] :=
    filter_eq_nil_iff.mpr (by simpa using hf)
  have hno : (produced.map AppEvent.controller).filter (fun ev =>
      ev.sessionStamp = some s.shell.generations.session) = [] := by
    refine filter_eq_nil_iff.mpr ?_
    intro ev hmem
    obtain ⟨inner, hi, rfl⟩ := mem_map.mp hmem
    simpa [stampOf] using hp inner hi
  simp only [current, inFlight, hs, hq, ho, map_append, filter_append, hn, hno, append_nil]

theorem stamp_of_neutral {ev : AppEvent} (h : isNeutral ev = true) (g : GenerationId) :
    ev.sessionStamp ≠ some g := by
  simp only [isNeutral, Bool.and_eq_true, Option.isNone_iff_eq_none] at h
  rw [h.1]
  simp

theorem stamp_of_sessionless {evs : List ControllerEvent} (h : sessionEvents evs = [])
    (g : GenerationId) : ∀ ev ∈ evs, stampOf ev ≠ some g := by
  intro ev hmem hs
  have := mem_sessionEvents hmem hs
  rw [h] at this
  simp at this

namespace Shown

variable {s s' : Runtime}

theorem frame (h : s.Shown) (hs : s'.shell = s.shell)
    (hp : s'.projection.session = s.projection.session)
    (hc : s'.current = s.current) (hf : ∀ ev ∈ s.inFlight, ev ∈ s'.inFlight) :
    s'.Shown := by
  intro echo he
  rw [hp, hs] at he
  cases h echo he with
  | failing summ hu hmem =>
    rw [← hs] at hu hmem
    exact .failing summ hu (hf _ hmem)
  | coming pre hl =>
    rw [← hs] at hl
    exact .coming pre (hc.trans hl)
  | shown hn hv =>
    rw [← hs] at hv
    exact .shown (hc.trans hn) hv

/-- Events that join at the end of the queue or the outbox. -/
theorem joined (h : s.Shown) (fed : List AppEvent) (produced : List ControllerEvent)
    (hs : s'.shell = s.shell) (hp : s'.projection.session = s.projection.session)
    (hq : s'.queue = s.queue ++ fed) (ho : s'.outbox = s.outbox ++ produced)
    (hf : ∀ ev ∈ fed, ev.sessionStamp ≠ some s.shell.generations.session)
    (hd : ∀ ev ∈ produced, stampOf ev ≠ some s.shell.generations.session) :
    s'.Shown := by
  refine h.frame hs hp (current_of_joined hs hq ho hf hd) fun ev hmem => ?_
  rw [inFlight, hq, ho]
  simp only [inFlight, map_append, mem_append] at hmem ⊢
  rcases hmem with hmem | hmem
  · exact .inl (.inl hmem)
  · exact .inr (.inl hmem)

/-- A failed tone of the check under way outdoes every answer. -/
theorem of_failing (summ : String) (hu : s.shell.hardwareCheck.phase.isUnderWay = true)
    (hmem : .controller (.sessionFailed s.shell.generations.session summ) ∈ s.inFlight) :
    s.Shown := fun _ _ => .failing summ hu hmem

variable {ev : AppEvent}

theorem steady {rest : List AppEvent} {shell : AppState}
    {effects : List AppEffect} (hq : s.queue = ev :: rest)
    (hm : shell.generations.session = s.shell.generations.session)
    (ht : Steady s.shell ev shell) {echo : SessionEcho} (h : s.Shows echo) :
    Shows { s with shell, queue := rest, effects } echo := by
  set s' : Runtime := { s with shell, queue := rest, effects } with hs'
  have hn : s'.shell.generations.session = s.shell.generations.session := hm
  have hf : s.inFlight = ev :: s'.inFlight := by simp [inFlight, hq, hs']
  have hc : s.current = if ev.sessionStamp = some s.shell.generations.session
      then ev :: s'.current else s'.current := by
    simp only [current, hf, filter_cons, decide_eq_true_eq, hn]
  cases h with
  | failing summary hu hmem =>
    refine .failing summary (ht.underWay hu) ?_
    rw [hn]
    rw [hf] at hmem
    rcases mem_cons.mp hmem with heq | hmem
    · exact absurd heq.symm (ht.unfailed hu summary)
    · exact hmem
  | coming pre hl =>
    by_cases hs : ev.sessionStamp = some s.shell.generations.session
    · rw [if_pos hs, hl] at hc
      cases pre with
      | nil =>
        -- the answer itself is taken in
        rw [nil_append, List.cons.injEq] at hc
        refine .shown hc.2.symm ?_
        rw [hn]
        exact ht.shown _ hc.1.symm (by rw [hc.1]; exact hs)
      | cons _ pre =>
        rw [cons_append, List.cons.injEq] at hc
        refine .coming pre ?_
        rw [hn]
        exact hc.2.symm
    · rw [if_neg hs] at hc
      refine .coming pre ?_
      rw [hn, ← hc]
      exact hl
  | shown hnn hv =>
    have hs : ev.sessionStamp ≠ some s.shell.generations.session := by
      intro hs
      rw [if_pos hs, hnn] at hc
      cases hc
    rw [if_neg hs] at hc
    refine .shown (hc ▸ hnn) ?_
    have hk : s'.shell.view = s.shell.view := ht.kept hs
    rw [hn, hk]
    exact hv

theorem turned [Lowercase] (h : s.Shown) (ho : s.Ordered)
    {rest : List AppEvent} (hq : s.queue = ev :: rest) :
    Shown (s.afterTurn ev rest) := by
  intro echo he
  have hg := (reduce_allocates ho.reachable ev).le
  have hb : (reduce s.shell ev).1.generations.session ≤ s.shell.generations.session :=
    (ho.answered _ echo he).trans (ho.behind.trans ho.allocated.le)
  have hs := le_antisymm hb hg
  refine steady hq hs (reduce_steady ho.reachable ev hs) (h echo ?_)
  rw [← hs]
  exact he

theorem executed (h : s.Shown) (ht : s.Tones) {eff : AppEffect} {rest : List AppEffect}
    {sent : List CommandEnvelope} {wrs : List EchoWrite} {fed : List AppEvent}
    (heff : s.effects = eff :: rest) (hd : ∀ ev ∈ fed, Feedback eff ev) :
    Shown (s.afterEffect rest sent wrs fed) := by
  by_cases hf : ∃ ev ∈ fed, ev.sessionStamp = some s.shell.generations.session
  · obtain ⟨ev, hmem, hs⟩ := hf
    cases hd ev hmem with
    | neutral hn => exact absurd hs (stamp_of_neutral hn _)
    | tone gen summ he hv =>
      have ha := ht.asked gen (mem_toneGenerations_of_effect (heff ▸ mem_cons_self) he)
      refine of_failing summ ha.2 ?_
      refine mem_append_left _ (mem_append_right _ ?_)
      rw [← ha.1, ← hv]
      exact hmem
  · refine h.joined fed [] rfl rfl rfl (by simp) ?_ (by simp)
    exact fun ev hmem hs => hf ⟨ev, hmem, hs⟩

theorem projected (h : s.Shown) (snap : DeviceSnapshot) (stage : Stage)
    (seen : Option (DeviceSnapshot × GenerationsSeen)) :
    Shown { s with
      projection := (s.projection.project snap s.echo.sample).1
      outbox := s.outbox ++ (s.projection.project snap s.echo.sample).2
      stage
      projected := seen } := by
  cases project_session s.projection snap s.echo.sample with
  | withheld _ he hv =>
    refine h.joined [] _ rfl he (by simp) rfl (by simp) ?_
    exact stamp_of_sessionless hv _
  | published ans _ _ he hv =>
    intro echo hp
    change (s.projection.project snap s.echo.sample).1.session = _ at hp
    rw [he, Option.some.injEq, Prod.mk.injEq] at hp
    obtain ⟨hg, rfl⟩ := hp
    change s.echo.session.1 = s.shell.generations.session at hg
    -- the answer is the last of the line
    refine .coming s.current ?_
    have hr : ((s.projection.project snap s.echo.sample).2.map
        AppEvent.controller).filter (fun ev => ev.sessionStamp = some s.shell.generations.session)
        = [.controller (ans.event s.shell.generations.session)] := by
      rw [filter_map, ← hg]
      have hf : ∀ evs : List ControllerEvent,
          evs.filter ((fun ev : AppEvent => decide (ev.sessionStamp
            = some s.echo.session.1)) ∘ AppEvent.controller)
          = (sessionEvents evs).filter (fun ev =>
              decide (stampOf ev = some s.echo.session.1)) := by
        intro evs
        rw [sessionEvents, filter_filter]
        refine filter_congr ?_
        intro ev _
        by_cases hs : stampOf ev = some s.echo.session.1
        · simp [Function.comp, hs, show (AppEvent.controller ev).sessionStamp
            = some s.echo.session.1 from hs]
        · simp [Function.comp, hs, show ¬ (AppEvent.controller ev).sessionStamp
            = some s.echo.session.1 from hs]
      rw [hf, hv]
      simp [GenerationEcho.sample]
    simp only [current, inFlight, map_append, filter_append, hr, append_assoc]

/-- Every move keeps the last answer shown or on its way. -/
theorem step [Lowercase] (h : s.Shown) (ho : s.Ordered) (ht : s.Tones) {move : Move}
    (hp : Stepped s move s') : s'.Shown := by
  cases hp with
  | same => exact h
  | raised ev hn =>
    refine h.joined [ev] [] rfl rfl rfl (by simp) ?_ (by simp)
    simpa using stamp_of_neutral hn s.shell.generations.session
  | turned _ _ _ _ hq => exact h.turned ho hq
  | executed _ _ _ _ _ _ _ _ hef _ hd => exact h.executed ht hef hd
  | wrote => exact h.frame rfl rfl rfl fun ev hmem => hmem
  | looked => exact h.frame rfl rfl rfl fun ev hmem => hmem
  | projected snap => exact h.projected snap _ _
  | targeted => exact h.frame rfl rfl rfl fun ev hmem => hmem
  | grouped => exact h.joined [] _ rfl rfl (by simp) rfl (by simp) (groupEvents_stampless _ _ _ _ _)
  | volumed snap =>
    obtain ⟨-, he⟩ := volumeEvents_result s.echo s.actor.channels snap false
    refine h.joined [] _ rfl rfl (by simp) rfl (by simp) ?_
    exact fun ev hmem => stamp_of_neutral (he ev hmem) _
  | listened snap _ hop =>
    obtain ⟨-, he⟩ := listeningEvents_result s.echo s.actor.channels snap false
    by_cases hf : ∃ ev ∈ (s.echo.listeningEvents s.actor.channels snap false).2,
        stampOf ev = some s.shell.generations.session
    · obtain ⟨ev, hmem, hs⟩ := hf
      obtain ⟨old, hold, heq⟩ := he ev hmem
      have hg : old.generation = s.shell.generations.session := by
        rw [heq] at hs
        exact Option.some.inj hs
      have hu := (ht.played old ((due_listening_of_open hop s.echo).trans hold)).2 hg
      refine of_failing LISTENING_TONE_FAILED_SUMMARY hu ?_
      refine mem_append_right _ (mem_map.mpr ⟨ev, mem_append_right _ hmem, ?_⟩)
      rw [heq, hg]
    · refine h.joined [] _ rfl rfl (by simp) rfl (by simp) ?_
      exact fun ev hmem hs => hf ⟨ev, hmem, hs⟩
  | flushed ev rest hou =>
    have hm : s.inFlight = inFlight { s with
        queue := s.queue ++ [.controller ev], outbox := rest } := by
      simp [inFlight, hou]
    refine h.frame rfl rfl ?_ fun ev hmem => hm ▸ hmem
    simp only [current, ← hm]
  | appended _ ev hn =>
    refine h.joined [] [ev] rfl rfl (by simp) rfl (by simp) ?_
    intro other hmem
    rw [mem_singleton.mp hmem]
    exact stamp_of_neutral hn _
  | worked => exact h.frame rfl rfl rfl fun ev hmem => hmem

end Shown

/-! ## What the last pass held back -/

/-- What the last pass did not publish it had a reason to hold back. -/
def Withholds : Prop :=
  ∀ snapshot seen echo, s.projected = some (snapshot, seen) →
    sessionEcho snapshot.session = some echo →
    Projection.Withheld s.projection.session snapshot.session.phase seen echo

theorem Withholds.projected (snap : DeviceSnapshot) (stage : Stage) : Withholds { s with
      projection := (s.projection.project snap s.echo.sample).1
      outbox := s.outbox ++ (s.projection.project snap s.echo.sample).2
      stage
      projected := some (snap, s.echo.sample) } := by
  intro snapshot' seen echo hp he
  rw [Option.some.injEq, Prod.mk.injEq] at hp
  obtain ⟨rfl, rfl⟩ := hp
  cases project_session s.projection snap s.echo.sample with
  | published ans ha _ hs =>
    obtain rfl : ans = echo := Option.some.inj (ha.symm.trans he)
    exact .known hs
  | withheld hr hs =>
    show Projection.Withheld (s.projection.project snap s.echo.sample).1.session _ _ _
    rw [hs]
    exact withheld_of_publishes (hr echo he)

theorem Withholds.step [Lowercase] {s s' : Runtime} (h : s.Withholds) {move : Move}
    (hs : Stepped s move s') : s'.Withholds := by
  cases hs with
  | projected snap => exact Withholds.projected s snap _
  | _ => exact h

end Runtime

end OpenAirCast.Bridge
