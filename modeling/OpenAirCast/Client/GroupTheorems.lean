/-
Client.GroupTheorems — a best-effort group connect accounts for
its members and its links.

`group_connect_accounts`: in the report of a call each device is connected or
failed, once, and each link the factory returned is stored or was torn down,
once. Devices that are in neither list are those whose link was given up
because nobody became the primary.

The order in which the establishments end is forgotten at once
(`establishAll_eq`). From there on two things are conserved: a device that
got a link is up, was tried in vain or failed to join, and the link of a
device is up or was torn down (`Rounds`, `Session`). The lists are compared
up to order, and what a call returns is read off (`LinksAccounted.of_perm`).
-/
import OpenAirCast.Client.Group

namespace OpenAirCast.Client

open List Attempt AirPlayClient

open Backend (SetupPhase)

variable {τ : Type}

/-! ## Establishing -/

variable (connectAuto : ConnectAuto τ)

/-- The link of a device, if it establishes. -/
def linkOf (device : Device) : Option (GroupMemberLink τ) :=
  (connectMember connectAuto device .ptp).toOption

/-- The device gets a link. -/
def Establishes (device : Device) : Bool :=
  (linkOf connectAuto device).isSome

variable {link : GroupMemberLink τ} {protocol : TimingProtocol}

section Establishing

variable {connectAuto : ConnectAuto τ} {device : Device}

theorem connectMember_ok (h : connectMember connectAuto device protocol = .ok link) :
    link.device = device ∧ link.protocol = protocol := by
  unfold connectMember at h
  split at h <;> cases h
  exact ⟨rfl, rfl⟩

theorem connectMember_error {fail : MemberFailure}
    (h : connectMember connectAuto device protocol = .error fail) :
    fail.receiver = device.id := by
  unfold connectMember at h
  split at h <;> cases h
  unfold classifyConnectFailure
  split <;> rfl

theorem linkOf_some (h : linkOf connectAuto device = some link) :
    link.device = device ∧ link.key = (device.id, .ptp) := by
  unfold linkOf at h
  cases hr : connectMember connectAuto device .ptp with
  | error =>
    rw [hr] at h
    cases h
  | ok =>
    rw [hr] at h
    cases h
    obtain ⟨hd, hp⟩ := connectMember_ok hr
    exact ⟨hd, by rw [GroupMemberLink.key, hd, hp]⟩

end Establishing

section Order

variable (connectAuto : ConnectAuto τ) {devices : List Device}

/-- Results that come in any order are put in the order of the input. -/
theorem establishAll_eq {completed : List (Device × Nat)}
    (hcompleted : completed.Perm devices.zipIdx) :
    establishAll connectAuto completed = devices.zipIdx.map (fun ent =>
      (ent.2, ent.1, connectMember connectAuto ent.1 .ptp)) := by
  have hp := (perm_insertionSort (@Completed.before τ) _).trans
    (hcompleted.map (fun ent => (ent.2, ent.1, connectMember connectAuto ent.1 .ptp)))
  have hl : ((devices.zipIdx.map (fun ent =>
      (ent.2, ent.1, connectMember connectAuto ent.1 .ptp))).map (·.1))
        = List.range' 0 devices.length := by
    rw [map_map, ← zipIdx_map_snd 0 devices]
    rfl
  refine List.Perm.eq_of_pairwise (fun a b ha hb hab hba => ?_) (pairwise_insertionSort _ _) ?_ hp
  · refine inj_on_of_nodup_map (f := (·.1)) ?_ (hp.subset ha) hb (Nat.le_antisymm hab hba)
    rw [hl]
    exact nodup_range'
  · have hs := pairwise_lt_range' (s := 0) (n := devices.length)
    rw [← hl, pairwise_map] at hs
    exact hs.imp Nat.le_of_lt

end Order

/-! ## Electing a primary -/

/-- The links that are up. -/
def Attempt.links (attempt : Attempt τ) : List (GroupMemberLink τ) :=
  attempt.members.filterMap slotLink

/-- The devices that get a link. -/
def reachable (devices : List Device) : List Device :=
  devices.filter (Establishes connectAuto)

/-- The key of the first link of a device. -/
def ptpKey (id : DeviceId) : LinkKey := (id, .ptp)

/-- What is known while primaries are tried: `gone` are the ids that were
tried and failed. -/
structure Rounds (connectAuto : ConnectAuto τ) (devices : List Device) (gone : List DeviceId)
    (attempt : Attempt τ) : Prop where
  seats : (attempt.members.filterMap id).map (·.device) = reachable connectAuto devices
  sound : ∀ member, some member ∈ attempt.members → member.healthy = member.link.isSome ∧
    ∀ link, member.link = some link →
      link.device = member.device ∧ link.key = ptpKey member.device.id
  failures : attempt.failures.map (·.receiver)
    = (devices.filter (fun device => !Establishes connectAuto device)).map (·.id) ++ gone
  established : attempt.established = ((reachable connectAuto devices).map (·.id)).map ptpKey
  tornDown : attempt.tornDown = gone.map ptpKey
  tried : (gone ++ attempt.links.map (·.device.id)).Perm
    ((reachable connectAuto devices).map (·.id))

section Electing

variable {connectAuto : ConnectAuto τ} {devices : List Device} {attempt : Attempt τ}

theorem Rounds.collect (h : Rounds connectAuto devices [] attempt) (ent : Device × Nat) :
    Rounds connectAuto (devices ++ [ent.1]) []
      (attempt.collect (ent.2, ent.1, connectMember connectAuto ent.1 .ptp)) := by
  unfold Attempt.collect
  cases hs : connectMember connectAuto ent.1 .ptp with
  | ok link =>
    have hl : linkOf connectAuto ent.1 = some link := by
      rw [linkOf, hs]
      rfl
    obtain ⟨hd, hk⟩ := linkOf_some hl
    have hr : reachable connectAuto (devices ++ [ent.1])
        = reachable connectAuto devices ++ [ent.1] := by
      simp [reachable, Establishes, hl]
    refine ⟨?_, fun mbr hm => ?_, ?_, ?_, h.tornDown, ?_⟩
    · simp [hr, ← h.seats]
    · rcases mem_append.mp hm with hm | hm
      · exact h.sound mbr hm
      · cases mem_singleton.mp hm
        refine ⟨rfl, fun link' hl' => ?_⟩
        cases hl'
        exact ⟨hd, hk⟩
    · simp [h.failures, Establishes, hl]
    · simp [hr, h.established, hk, ptpKey]
    · have ht := h.tried
      simp only [links, nil_append] at ht ⊢
      simpa [hr, slotLink, hd] using ht.append_right [ent.1.id]
  | error =>
    have hl : linkOf connectAuto ent.1 = none := by
      rw [linkOf, hs]
      rfl
    have hr : reachable connectAuto (devices ++ [ent.1]) = reachable connectAuto devices := by
      simp [reachable, Establishes, hl]
    refine ⟨?_, fun mbr hm => h.sound mbr (by simpa using hm), ?_, ?_, h.tornDown, ?_⟩
    · simp [hr, ← h.seats]
    · simp [h.failures, Establishes, hl, connectMember_error hs]
    · rw [hr]
      exact h.established
    · have ht := h.tried
      simp only [links] at ht ⊢
      simpa [hr, filterMap_append, filterMap_cons, slotLink] using ht

theorem collect_rounds (ents : List (Device × Nat)) :
    ∀ {devices : List Device} {attempt : Attempt τ}, Rounds connectAuto devices [] attempt →
    Rounds connectAuto (devices ++ ents.map (·.1)) []
      ((ents.map (fun ent => (ent.2, ent.1, connectMember connectAuto ent.1 .ptp))).foldl
        collect attempt) := by
  induction ents with
  | nil =>
    intro devices attempt h
    simpa using h
  | cons ent _ ih =>
    intro devices attempt h
    simpa using ih (h.collect ent)

theorem collect_untried (ress : List (Completed τ)) (attempt : Attempt τ) :
    (ress.foldl collect attempt).preferred = attempt.preferred ∧
    (ress.foldl collect attempt).primaryAttemptLog = attempt.primaryAttemptLog := by
  induction ress generalizing attempt with
  | nil => exact ⟨rfl, rfl⟩
  | cons result _ ih =>
    obtain ⟨hp, hl⟩ := ih (attempt.collect result)
    rw [foldl_cons, hp, hl]
    unfold collect
    split <;> exact ⟨rfl, rfl⟩

theorem establish_untried (connectAuto : ConnectAuto τ) (preferred : Option DeviceId)
    (completed : List (Device × Nat)) :
    (establish connectAuto preferred completed).preferred = preferred ∧
    (establish connectAuto preferred completed).primaryAttemptLog = [] :=
  collect_untried _ _

theorem establish_rounds (preferred : Option DeviceId) {completed : List (Device × Nat)}
    (hcompleted : completed.Perm devices.zipIdx) :
    Rounds connectAuto devices [] (establish connectAuto preferred completed) := by
  have he : Rounds connectAuto [] []
      ({ members := [], failures := [], preferred := preferred, established := [] } : Attempt τ) :=
    ⟨rfl, fun _ hm => (not_mem_nil hm).elim, rfl, rfl, rfl, List.Perm.refl _⟩
  have hall := collect_rounds devices.zipIdx he
  rw [nil_append, zipIdx_map_fst] at hall
  unfold establish
  rw [establishAll_eq connectAuto hcompleted]
  exact hall

theorem filterMap_set_perm {α β : Type} (f : α → Option β) {l : List α} {place : Nat} {old new : α}
    {x : β} (ha : l[place]? = some old) (hold : f old = some x) (hn : f new = none) :
    (x :: (l.set place new).filterMap f).Perm (l.filterMap f) := by
  obtain ⟨hlt, rfl⟩ := List.getElem?_eq_some_iff.mp ha
  have hs := (set_perm_cons_eraseIdx hlt new).filterMap f
  have hall := (getElem_cons_eraseIdx_perm hlt).filterMap f
  rw [filterMap_cons_none hn] at hs
  rw [filterMap_cons_some hold] at hall
  exact (hs.cons x).trans hall

variable {gone : List DeviceId} (h : Rounds connectAuto devices gone attempt)
include h

theorem Rounds.links_sound (hl : link ∈ attempt.links) :
    ∃ mbr, some mbr ∈ attempt.members ∧ mbr.link = some link ∧
      link.device = mbr.device ∧ link.key = ptpKey link.device.id := by
  obtain ⟨slot, hs, ho⟩ := mem_filterMap.mp hl
  obtain ⟨mbr, rfl, hm⟩ := Option.bind_eq_some_iff.mp ho
  obtain ⟨hd, hk⟩ := (h.sound mbr hs).2 link hm
  exact ⟨mbr, hs, hm, hd, hd ▸ hk⟩

theorem Rounds.candidates : attempt.candidates = attempt.links.map (·.device) := by
  unfold Attempt.candidates Attempt.links
  rw [map_filterMap]
  refine filterMap_congr (fun slot hs => ?_)
  cases slot with
  | none => rfl
  | some mbr =>
    obtain ⟨hh, hd⟩ := h.sound mbr hs
    cases hl : mbr.link with
    | none => simp [slotLink, hl]
    | some link => simp [slotLink, hl, hh, (hd link hl).1]

theorem Rounds.position (hids : (devices.map (·.id)).Nodup) (hl : link ∈ attempt.links) : ∃ mbr,
      attempt.members[attempt.position link.device.id]? = some (some mbr) ∧
      mbr.link = some link ∧ mbr.device = link.device := by
  obtain ⟨mbr, hm, ho, hd, -⟩ := h.links_sound hl
  have hlt := findIdx_lt_length_of_exists
    (p := isSlotOf link.device.id) ⟨_, hm, by simp [isSlotOf, hd]⟩
  have hh := @findIdx_getElem _ (isSlotOf link.device.id) attempt.members hlt
  have hf := getElem_mem hlt
  refine ⟨mbr, List.getElem?_eq_some_iff.mpr ⟨hlt, ?_⟩, ho, hd.symm⟩
  change attempt.members[attempt.members.findIdx _] = some mbr
  generalize attempt.members[attempt.members.findIdx _] = slot at hh hf ⊢
  cases slot with
  | none => cases hh
  | some other =>
    have hs : ((attempt.members.filterMap id).map (·.device.id)).Nodup := by
      have hall := hids.sublist ((filter_sublist (p := Establishes connectAuto)).map (·.id))
      rw [show devices.filter _ = _ from h.seats.symm, map_map] at hall
      exact hall
    have hsm : other.device.id = mbr.device.id := by
      rw [← hd]
      exact beq_iff_eq.mp hh
    rw [inj_on_of_nodup_map hs (mem_filterMap.mpr ⟨_, hf, rfl⟩)
      (mem_filterMap.mpr ⟨_, hm, rfl⟩) hsm]

theorem Rounds.failed {place : Nat} {mbr : EstablishedMember τ}
    (ha : attempt.members[place]? = some (some mbr)) (hn : mbr.link = some link)
    {after : Attempt τ} (ph : SetupPhase) (src : Error)
    (hm : after.members = attempt.members.set place
      (some { device := mbr.device, healthy := false, link := none }))
    (hf : after.failures = attempt.failures ++ [memberFailure mbr.device.id ph src])
    (he : after.established = attempt.established)
    (ht : after.tornDown = attempt.tornDown ++ [link.key]) :
    Rounds connectAuto devices (gone ++ [mbr.device.id]) after := by
  obtain ⟨hd, hk⟩ := (h.sound mbr (mem_of_getElem? ha)).2 link hn
  refine ⟨?_, fun other ho => ?_, ?_, he.trans h.established, ?_, ?_⟩
  · have hs : (attempt.members.map (Option.map (·.device)))[place]? = some (some mbr.device) := by
      rw [getElem?_map, ha]
      rfl
    obtain ⟨_, hs⟩ := List.getElem?_eq_some_iff.mp hs
    have hsm : after.members.map (Option.map (·.device))
        = attempt.members.map (Option.map (·.device)) := by
      rw [hm, map_set, Option.map_some, ← hs, set_getElem_self]
    have hall := congrArg (List.filterMap id) hsm
    simp only [filterMap_map, Function.comp_def, id] at hall
    rw [← h.seats, map_filterMap, map_filterMap]
    exact hall
  · rw [hm] at ho
    rcases mem_or_eq_of_mem_set ho with ho | ho
    · exact h.sound other ho
    · cases ho
      exact ⟨rfl, fun link' hl' => by cases hl'⟩
  · rw [hf, map_append, h.failures, append_assoc]
    rfl
  · rw [ht, h.tornDown, hk, map_append]
    rfl
  · have hl : (link :: after.links).Perm attempt.links := by
      unfold links
      rw [hm]
      exact filterMap_set_perm slotLink ha hn rfl
    have hall := (hl.map (·.device.id)).append_left gone
    rw [map_cons, hd] at hall
    rw [append_assoc]
    exact hall.trans h.tried

theorem Rounds.tryPrimary (hids : (devices.map (·.id)).Nodup) {device : Device}
    (hc : device ∈ attempt.candidates) :
    (attempt.tryPrimary device).1.primaryAttemptLog = attempt.primaryAttemptLog ++ [device.id] ∧
    ((∃ elected mbr, (attempt.tryPrimary device).2 = some elected ∧
        (attempt.tryPrimary device).1.members[elected.1]? = some (some mbr) ∧
        mbr.link.isSome = true ∧ Rounds connectAuto devices gone (attempt.tryPrimary device).1) ∨
      ((attempt.tryPrimary device).2 = none ∧
        Rounds connectAuto devices (gone ++ [device.id]) (attempt.tryPrimary device).1)) := by
  rw [h.candidates] at hc
  obtain ⟨link, hmem, rfl⟩ := mem_map.mp hc
  obtain ⟨mbr, ha, hl, hd⟩ := h.position hids hmem
  have hf : attempt.linkAt (attempt.position link.device.id) = some link := by
    unfold linkAt memberAt
    rw [ha]
    exact hl
  unfold Attempt.tryPrimary
  dsimp only
  rw [hf]
  dsimp only
  cases hr : runPrimaryCritical link (buildPeerAddresses attempt.linked link.conn.localAddr) with
  | ok timing =>
    refine ⟨rfl, .inl ⟨_, mbr, rfl, ha, by rw [hl]; rfl, ?_⟩⟩
    exact ⟨h.seats, h.sound, h.failures, h.established, h.tornDown, h.tried⟩
  | error fail =>
    refine ⟨rfl, .inr ⟨rfl, ?_⟩⟩
    rw [← hd] at ha ⊢
    exact h.failed ha hl fail.1 fail.2 rfl rfl rfl rfl

end Electing

section Rules

variable {devices : List Device} {preferred : Option DeviceId} {device : Device}

theorem choosePrimary_some (h : choosePrimary devices preferred = some device) :
    device ∈ devices ∧ device.supportsPtp = true ∧
    (preferred = some device.id ∨ ∀ other ∈ devices, other.supportsPtp = true →
      preferred ≠ some other.id ∧ device.id ≤ other.id) := by
  unfold choosePrimary at h
  rcases Option.or_eq_some_iff.mp h with hn | ⟨hnn, hs⟩
  · obtain ⟨_, rfl, hf⟩ := Option.bind_eq_some_iff.mp hn
    have hmem := mem_of_find?_eq_some hf
    have hi := find?_some hf
    rw [mem_filter] at hmem
    exact ⟨hmem.1, hmem.2, .inl (by rw [beq_iff_eq.mp hi])⟩
  · have hmem := argmin_mem hs
    rw [mem_filter] at hmem
    refine ⟨hmem.1, hmem.2, .inr (fun other ho hp => ?_)⟩
    have hc : other ∈ devices.filter Device.supportsPtp := mem_filter.mpr ⟨ho, hp⟩
    refine ⟨?_, le_of_mem_argmin hc hs⟩
    rintro rfl
    have ha := find?_eq_none.mp hnn other hc
    simp at ha

theorem choosePrimary_none (h : choosePrimary devices preferred = none) :
    ∀ other ∈ devices, other.supportsPtp = false := by
  unfold choosePrimary at h
  have he := argmin_eq_none.mp (Option.or_eq_none_iff.mp h).2
  intro other ho
  have ha := filter_eq_nil_iff.mp he other ho
  simpa using ha

end Rules

section Election

variable {connectAuto : ConnectAuto τ} {devices : List Device}

theorem tryPrimary_log (attempt : Attempt τ) (device : Device) :
    (attempt.tryPrimary device).1.primaryAttemptLog = attempt.primaryAttemptLog ∨
    (attempt.tryPrimary device).1.primaryAttemptLog = attempt.primaryAttemptLog ++ [device.id] := by
  unfold tryPrimary
  dsimp only
  split
  · exact .inl rfl
  · split
    · exact .inr rfl
    · exact .inr rfl

theorem electPrimary_log (rounds : Nat) (attempt : Attempt τ) :
    attempt.primaryAttemptLog <+: (attempt.electPrimary rounds).1.primaryAttemptLog ∧
    (attempt.electPrimary rounds).1.primaryAttemptLog.length
      ≤ attempt.primaryAttemptLog.length + rounds := by
  induction rounds generalizing attempt with
  | zero => exact ⟨prefix_rfl, Nat.le_refl _⟩
  | succ _ ih =>
    rw [electPrimary]
    cases hc : choosePrimary attempt.candidates attempt.preferred with
    | none => exact ⟨prefix_rfl, Nat.le_add_right _ _⟩
    | some device =>
      have hl : attempt.primaryAttemptLog <+: (attempt.tryPrimary device).1.primaryAttemptLog ∧
          (attempt.tryPrimary device).1.primaryAttemptLog.length
            ≤ attempt.primaryAttemptLog.length + 1 := by
        rcases tryPrimary_log attempt device with hl | hl
        · rw [hl]
          exact ⟨prefix_rfl, Nat.le_succ _⟩
        · rw [hl]
          exact ⟨prefix_append _ _, by simp⟩
      dsimp only
      cases ht : attempt.tryPrimary device with
      | mk after elected =>
        rw [ht] at hl
        dsimp only at hl
        cases elected with
        | some => exact ⟨hl.1, by dsimp only; omega⟩
        | none =>
          obtain ⟨hs, _⟩ := ih after
          exact ⟨hl.1.trans hs, by dsimp only; omega⟩

variable (hids : (devices.map (·.id)).Nodup)
include hids

/-- Where an election ends, the winner has its link. -/
theorem electPrimary_rounds (rounds : Nat) : ∀ {gone : List DeviceId} {attempt : Attempt τ},
    Rounds connectAuto devices gone attempt → attempt.primaryAttemptLog = gone →
    ∃ gone', Rounds connectAuto devices gone' (attempt.electPrimary rounds).1 ∧
      ((attempt.electPrimary rounds).2 = none →
        (attempt.electPrimary rounds).1.primaryAttemptLog = gone') ∧
      ∀ elected, (attempt.electPrimary rounds).2 = some elected → ∃ mbr,
        (attempt.electPrimary rounds).1.members[elected.1]? = some (some mbr) ∧
        mbr.link.isSome = true := by
  induction rounds with
  | zero =>
    intro gone attempt h hl
    exact ⟨gone, h, fun _ => hl, fun elected he => by cases he⟩
  | succ _ ih =>
    intro gone attempt h hl
    rw [electPrimary]
    cases hc : choosePrimary attempt.candidates attempt.preferred with
    | none => exact ⟨gone, h, fun _ => hl, fun elected he => by cases he⟩
    | some device =>
      obtain ⟨hnewLog, hr⟩ := h.tryPrimary hids (choosePrimary_some hc).1
      rw [hl] at hnewLog
      dsimp only
      generalize attempt.tryPrimary device = result at hnewLog hr ⊢
      obtain ⟨_, elected⟩ := result
      rcases hr with ⟨_, mbr, rfl, ha, hn, hrounds⟩ | ⟨rfl, hrounds⟩
      · dsimp only
        refine ⟨gone, hrounds, fun hnn => ?_, fun elected' he => ?_⟩
        · cases hnn
        · cases he
          exact ⟨mbr, ha, hn⟩
      · exact ih hrounds hnewLog

theorem electPrimary_first (rounds : Nat) {attempt : Attempt τ}
    (h : Rounds connectAuto devices [] attempt) (hl : attempt.primaryAttemptLog = []) :
    (attempt.electPrimary (rounds + 1)).1.primaryAttemptLog.head?
      = (choosePrimary attempt.candidates attempt.preferred).map (·.id) := by
  rw [electPrimary]
  cases hc : choosePrimary attempt.candidates attempt.preferred with
  | none => exact congrArg List.head? hl
  | some device =>
    have hnewLog := (h.tryPrimary hids (choosePrimary_some hc).1).1
    rw [hl] at hnewLog
    dsimp only
    cases ht : attempt.tryPrimary device with
    | mk after elected =>
      rw [ht] at hnewLog
      cases elected with
      | some => exact congrArg List.head? hnewLog
      | none =>
        obtain ⟨rest, hr⟩ := (electPrimary_log rounds after).1
        rw [show after.primaryAttemptLog = _ from hnewLog] at hr
        rw [← hr]
        rfl

end Election

/-! ## Joining the secondaries -/

/-- The link of a slot that is asked to join. -/
def asked (place : Nat) (entry : Option (EstablishedMember τ) × Nat) : Option (GroupMemberLink τ) :=
  if entry.2 = place then none else slotLink entry.1

/-- What slots that are asked to join add: `lost` are torn down, `kept` join. -/
structure Joined (place : Nat) (entries : List (Option (EstablishedMember τ) × Nat))
    (before after : Attempt τ × List Nat) (lost : List (GroupMemberLink τ))
    (kept : List (Option (EstablishedMember τ) × Nat)) : Prop where
  members : after.1.members = before.1.members
  established : after.1.established = before.1.established
  log : after.1.primaryAttemptLog = before.1.primaryAttemptLog
  failures : after.1.failures.map (·.receiver)
    = before.1.failures.map (·.receiver) ++ lost.map (·.device.id)
  tornDown : after.1.tornDown = before.1.tornDown ++ lost.map (·.key)
  survivors : after.2 = before.2 ++ kept.map (·.2)
  inOrder : kept.Sublist entries
  linked : ∀ entry ∈ kept, (slotLink entry.1).isSome = true
  split : (kept.filterMap (fun entry => slotLink entry.1) ++ lost).Perm
    (entries.filterMap (asked place))

section Joining

variable (elected : Elected τ) (renderDelayMs : Nat)

theorem joinSlot_joined (st : Attempt τ × List Nat)
    (ent : Option (EstablishedMember τ) × Nat) : ∃ lost kept,
    Joined elected.1 [ent] st (joinSlot elected renderDelayMs st ent) lost
      kept := by
  unfold joinSlot
  dsimp only
  by_cases hp : ent.2 = elected.1
  · rw [if_pos hp]
    refine ⟨[], [], rfl, rfl, rfl, ?_, ?_, ?_, nil_sublist _, ?_, ?_⟩ <;> simp [asked, hp]
  · rw [if_neg hp]
    cases hl : slotLink ent.1 with
    | none => refine ⟨[], [], rfl, rfl, rfl, ?_, ?_, ?_, nil_sublist _, ?_, ?_⟩ <;> simp [asked, hl]
    | some link =>
      dsimp only
      cases hj : joinMember link elected.2 renderDelayMs st.1.peerAddresses with
      | ok =>
        refine ⟨[], [ent], rfl, rfl, rfl, ?_, ?_, rfl, List.Sublist.refl _, ?_, ?_⟩ <;>
          simp [asked, hp, hl]
      | error =>
        refine ⟨[link], [], rfl, rfl, rfl, ?_, rfl, ?_, nil_sublist _, ?_, ?_⟩ <;>
          simp [asked, hp, hl, memberFailure]

theorem joinSlots_joined (ents : List (Option (EstablishedMember τ) × Nat)) :
    ∀ st : Attempt τ × List Nat, ∃ lost kept, Joined elected.1 ents st
      (ents.foldl (joinSlot elected renderDelayMs) st) lost kept := by
  induction ents with
  | nil =>
    intro st
    refine ⟨[], [], rfl, rfl, rfl, ?_, ?_, ?_, List.Sublist.refl _, ?_, List.Perm.refl _⟩ <;> simp
  | cons ent _ ih =>
    intro st
    obtain ⟨lost, kept, ho⟩ := joinSlot_joined elected renderDelayMs st ent
    rw [foldl_cons]
    generalize joinSlot elected renderDelayMs st ent = mid at ho ⊢
    obtain ⟨lost', kept', hr⟩ := ih mid
    refine ⟨lost ++ lost', kept ++ kept', hr.members.trans ho.members,
      hr.established.trans ho.established, hr.log.trans ho.log, ?_, ?_, ?_,
      ho.inOrder.append hr.inOrder, fun e he => ?_, ?_⟩
    · rw [hr.failures, ho.failures, append_assoc, map_append]
    · rw [hr.tornDown, ho.tornDown, append_assoc, map_append]
    · rw [hr.survivors, ho.survivors, append_assoc, map_append]
    · exact (mem_append.mp he).elim (ho.linked e) (hr.linked e)
    · have hs := ho.split.append hr.split
      rw [← filterMap_append, singleton_append] at hs
      rw [filterMap_append, append_assoc]
      refine List.Perm.trans (List.Perm.append_left _ ?_) (append_assoc _ _ _ ▸ hs)
      exact perm_append_comm_assoc _ _ _

end Joining

/-- A session of `primary` and of the `survivors`: the requested devices and
the established links, in two parts each. -/
structure Session (devices : List Device) (primary : EstablishedMember τ)
    (link : GroupMemberLink τ) (attempt : Attempt τ) (survivors : List Nat) : Prop where
  members : (primary.device.id :: (survivors.filterMap attempt.memberAt).map (·.device.id)
    ++ attempt.failures.map (·.receiver)).Perm (devices.map (·.id))
  order : ((survivors.filterMap attempt.memberAt).map (·.device.id)).Sublist (devices.map (·.id))
  links : (link.key :: (survivors.filterMap attempt.linkAt).map (·.key) ++ attempt.tornDown).Perm
    attempt.established
  onlyPtp : ∀ key ∈ attempt.established, key.2 = .ptp
  distinct : attempt.established.Nodup

variable {primary : EstablishedMember τ}

section Session

variable {connectAuto : ConnectAuto τ} {devices : List Device} {gone : List DeviceId}
  {attempt : Attempt τ} (h : Rounds connectAuto devices gone attempt)
include h

/-- A device failed, or its link is up. -/
theorem Rounds.devices_perm :
    (attempt.failures.map (·.receiver) ++ attempt.links.map (·.device.id)).Perm
      (devices.map (·.id)) := by
  rw [h.failures, append_assoc]
  refine (h.tried.append_left _).trans ?_
  rw [← map_append]
  exact (perm_append_comm.trans (filter_append_perm _ devices)).map _

/-- A link was torn down, or is up. -/
theorem Rounds.links_perm :
    (attempt.tornDown ++ attempt.links.map (·.key)).Perm attempt.established := by
  have hk : attempt.links.map (·.key) = (attempt.links.map (·.device.id)).map ptpKey := by
    rw [map_map]
    refine map_congr_left (fun link hl => ?_)
    obtain ⟨-, -, -, -, hy⟩ := h.links_sound hl
    exact hy
  rw [h.tornDown, hk, ← map_append, h.established]
  exact h.tried.map _

theorem Rounds.distinct (hids : (devices.map (·.id)).Nodup) : attempt.established.Nodup := by
  rw [h.established]
  exact (hids.sublist ((filter_sublist).map _)).map (fun _ _ hk => (Prod.mk.inj hk).1)

theorem Rounds.session (hids : (devices.map (·.id)).Nodup) {elected : Elected τ}
    (ha : attempt.members[elected.1]? = some (some primary)) (hl : primary.link = some link)
    (renderDelayMs : Nat) :
    let joined := attempt.joinSecondaries elected renderDelayMs
    Session devices primary link joined.1 joined.2 ∧ joined.1.members = attempt.members ∧
      joined.1.primaryAttemptLog = attempt.primaryAttemptLog := by
  obtain ⟨lost, kept, hj⟩ :=
    joinSlots_joined elected renderDelayMs attempt.members.zipIdx (attempt, [])
  intro joined
  change Joined _ _ _ joined _ _ at hj
  obtain ⟨hd, -⟩ := (h.sound primary (mem_of_getElem? ha)).2 link hl
  -- the links of a session and those that were lost are the ones that were up
  have hn : (link :: kept.filterMap (fun ent => slotLink ent.1) ++ lost).Perm
      attempt.links := by
    have hbl : attempt.members.zipIdx.map (fun ent =>
        if ent.2 = elected.1 then none else ent.1) = attempt.members.set elected.1 none := by
      refine ext_getElem (by simp) (fun place _ _ => ?_)
      simp [getElem_set, eq_comm]
    have hak : attempt.members.zipIdx.filterMap (asked elected.1)
        = (attempt.members.set elected.1 none).filterMap slotLink := by
      rw [← hbl, filterMap_map]
      refine filterMap_congr (fun ent _ => ?_)
      unfold asked
      rw [Function.comp_apply]
      split <;> rfl
    have hp := hj.split
    rw [hak] at hp
    exact (hp.cons link).trans (filterMap_set_perm slotLink ha hl rfl)
  have hs : ∀ ent ∈ kept, joined.1.memberAt ent.2 = ent.1 := by
    intro ent he
    have hc := mem_zipIdx_iff_getElem?.mp (hj.inOrder.subset he)
    unfold memberAt
    rw [hj.members, hc]
    rfl
  have hb : joined.2.filterMap joined.1.memberAt = kept.filterMap (·.1) := by
    rw [hj.survivors, nil_append, filterMap_map]
    exact filterMap_congr hs
  have hkepLin : joined.2.filterMap joined.1.linkAt
      = kept.filterMap (fun ent => slotLink ent.1) := by
    rw [hj.survivors, nil_append, filterMap_map]
    refine filterMap_congr (fun ent he => ?_)
    rw [Function.comp_apply, linkAt, hs ent he]
  have hi' : (kept.filterMap (·.1)).map (·.device.id)
      = (kept.filterMap (fun ent => slotLink ent.1)).map (·.device.id) := by
    rw [map_filterMap, map_filterMap]
    refine filterMap_congr (fun ent he => ?_)
    have hs := mem_of_getElem? (mem_zipIdx_iff_getElem?.mp (hj.inOrder.subset he))
    obtain ⟨kin, hk⟩ := Option.isSome_iff_exists.mp (hj.linked ent he)
    obtain ⟨mbr, hm, ho⟩ := Option.bind_eq_some_iff.mp hk
    rw [hm] at hs
    rw [hk, hm, Option.map_some, Option.map_some, ((h.sound mbr hs).2 kin ho).1]
  refine ⟨⟨?_, ?_, ?_, ?_, ?_⟩, hj.members, hj.log⟩
  · have hall := (hn.map (·.device.id)).append_left (attempt.failures.map (·.receiver))
    rw [map_append, map_cons, hd] at hall
    rw [hb, hi', hj.failures]
    exact (perm_append_comm_assoc _ _ _).trans (hall.trans h.devices_perm)
  · rw [hb]
    refine List.Sublist.trans ?_ ((filter_sublist (p := Establishes connectAuto)).map _)
    rw [show devices.filter _ = _ from h.seats.symm, map_map]
    refine List.Sublist.map _ ?_
    have ht := hj.inOrder.filterMap (fun ent => ent.1)
    rwa [show attempt.members.zipIdx.filterMap (fun ent => ent.1)
      = (attempt.members.zipIdx.map (·.1)).filterMap id from by rw [filterMap_map]; rfl,
      zipIdx_map_fst] at ht
  · have hall := (hn.map (·.key)).append_left attempt.tornDown
    rw [map_append, map_cons] at hall
    rw [hkepLin, hj.tornDown, hj.established]
    exact (perm_append_comm_assoc _ _ _).trans (hall.trans h.links_perm)
  · rw [hj.established, show (attempt, ([] : List Nat)).1.established = _ from h.established]
    intro key hy
    obtain ⟨_, -, rfl⟩ := mem_map.mp hy
    rfl
  · rw [hj.established]
    exact h.distinct hids

end Session

/-! ## A call -/

/-- The device can be tried as primary. -/
def CanLead (device : Device) : Bool :=
  Establishes connectAuto device && device.supportsPtp

/-- The device has a link, but nobody became the primary, and the device was
not tried. -/
def Dropped (preferred : Option DeviceId)
    (completed : List (Device × Nat)) (outcome : Outcome τ) (device : Device) : Prop :=
  (elect connectAuto preferred completed).2 = none ∧
  Establishes connectAuto device = true ∧ device.id ∉ outcome.primaryAttemptLog

/-- How often a device is in the report. -/
def GroupConnectReport.mentions (report : GroupConnectReport) (device : Device) : Nat :=
  (report.connected ++ report.failures.map (·.receiver)).count device.id

/-- Each device is in the report once, if it was not dropped, and then not at
all. -/
structure DevicesAccounted (connectAuto : ConnectAuto τ) (devices : List Device)
    (preferred : Option DeviceId) (completed : List (Device × Nat)) (outcome : Outcome τ)
    (report : GroupConnectReport) : Prop where
  once : ∀ device ∈ devices, ¬ Dropped connectAuto preferred completed outcome device →
    report.mentions device = 1
  dropped : ∀ device ∈ devices, Dropped connectAuto preferred completed outcome device →
    report.mentions device = 0
  order : (report.primary = none ∧ report.connected = []) ∨
    ∃ primary others, report.primary = some primary ∧ report.connected = primary :: others ∧
      others.Sublist (devices.map (·.id))

/-- Each link the factory returned is stored or was torn down once. -/
structure LinksAccounted (outcome : Outcome τ) : Prop where
  distinct : outcome.established.Nodup
  stored : ∀ link ∈ outcome.client.stored,
    link.key ∈ outcome.established ∧ link.key ∉ outcome.tornDown
  torn : ∀ key ∈ outcome.established, key ∉ outcome.client.stored.map (·.key) →
    outcome.tornDown.count key = 1

/-- At most two devices are tried as primary, the preferred one first if it can
lead, and else the one with the smallest id. -/
structure PrimariesTried (connectAuto : ConnectAuto τ) (devices : List Device)
    (preferred : Option DeviceId) (log : List DeviceId) : Prop where
  atMostTwo : log.length ≤ 2
  first : ∀ id, log.head? = some id → ∃ device ∈ devices, device.id = id ∧
    CanLead connectAuto device = true ∧
    (preferred = some id ∨ ∀ other ∈ devices, CanLead connectAuto other = true →
      preferred ≠ some other.id ∧ id ≤ other.id)
  nobody : log = [] → ∀ device ∈ devices, CanLead connectAuto device = false

section Call

variable {connectAuto : ConnectAuto τ} {devices : List Device} {preferred : Option DeviceId}
  {completed : List (Device × Nat)} (hids : (devices.map (·.id)).Nodup)
include hids

theorem Rounds.mem_candidates {attempt : Attempt τ} (h : Rounds connectAuto devices [] attempt)
    {device : Device} :
    device ∈ attempt.candidates ↔ device ∈ devices ∧ Establishes connectAuto device = true := by
  have hn : ∀ link ∈ attempt.links, link.device ∈ reachable connectAuto devices := by
    intro link hl
    obtain ⟨_, hm, -, hd, -⟩ := h.links_sound hl
    rw [hd, ← h.seats]
    exact mem_map_of_mem (mem_filterMap.mpr ⟨_, hm, rfl⟩)
  rw [h.candidates, ← mem_filter]
  constructor
  · intro hmem
    obtain ⟨link, hl, rfl⟩ := mem_map.mp hmem
    exact hn link hl
  · intro hmem
    obtain ⟨link, hl, hs⟩ := mem_map.mp (h.tried.symm.subset (mem_map_of_mem (f := (·.id)) hmem))
    refine mem_map.mpr ⟨link, hl, ?_⟩
    exact inj_on_of_nodup_map hids (mem_filter.mp (hn link hl)).1 (mem_filter.mp hmem).1 hs

variable (hcompleted : completed.Perm devices.zipIdx)
include hcompleted

theorem elect_tried : PrimariesTried connectAuto devices preferred
    (elect connectAuto preferred completed).1.primaryAttemptLog := by
  have hr := @establish_rounds τ connectAuto devices preferred _ hcompleted
  obtain ⟨hp, hg⟩ := establish_untried connectAuto preferred completed
  have hlen := (electPrimary_log 2 (establish connectAuto preferred completed)).2
  have hf := electPrimary_first hids 1 hr hg
  rw [hp] at hf
  rw [hg] at hlen
  refine ⟨hlen, fun id hi => ?_, fun he device hd => ?_⟩
  · rw [show (elect connectAuto preferred completed).1.primaryAttemptLog.head? = _ from
      hf] at hi
    obtain ⟨device, hc, rfl⟩ := Option.map_eq_some_iff.mp hi
    obtain ⟨hmem, ht, hrl⟩ := choosePrimary_some hc
    obtain ⟨hd, hl⟩ := (hr.mem_candidates hids).mp hmem
    refine ⟨device, hd, rfl, by rw [CanLead, hl, ht]; rfl, ?_⟩
    refine hrl.imp_right (fun hh other ho hld => ?_)
    obtain ⟨hothLin, hothPtp⟩ := (Bool.and_eq_true _ _).mp hld
    exact hh other ((hr.mem_candidates hids).mpr ⟨ho, hothLin⟩) hothPtp
  · rw [show (electPrimary (1 + 1) _).1.primaryAttemptLog = [] from he] at hf
    have hn := choosePrimary_none (Option.map_eq_none_iff.mp hf.symm)
    unfold CanLead
    cases hl : Establishes connectAuto device with
    | false => rfl
    | true => exact hn device ((hr.mem_candidates hids).mpr ⟨hd, hl⟩)

end Call

/-! ## How a call ends -/

variable {outc : Outcome τ}

theorem LinksAccounted.of_perm (hd : outc.established.Nodup)
    (h : (outc.client.stored.map (·.key) ++ outc.tornDown).Perm outc.established) :
    LinksAccounted outc := by
  obtain ⟨-, ht, hs⟩ := nodup_append.mp (h.nodup_iff.mpr hd)
  refine ⟨hd, fun link hl => ?_, fun key hk hn => ?_⟩
  · have hmem := mem_map_of_mem (f := (·.key)) hl
    exact ⟨h.subset (mem_append_left _ hmem), fun hg => hs _ hmem _ hg rfl⟩
  · refine count_eq_one_of_mem ht ?_
    exact (mem_append.mp (h.symm.subset hk)).resolve_left hn

section Endings

variable {connectAuto : ConnectAuto τ} {devices : List Device} {preferred : Option DeviceId}
  {completed : List (Device × Nat)} (hids : (devices.map (·.id)).Nodup)
include hids

variable {elected : Elected τ}

/-- With a primary, nobody is dropped. -/
theorem DevicesAccounted.of_perm (he : (elect connectAuto preferred completed).2 = some elected)
    {rep : GroupConnectReport}
    (h : (rep.connected ++ rep.failures.map (·.receiver)).Perm (devices.map (·.id)))
    (ho : (rep.primary = none ∧ rep.connected = []) ∨
      ∃ primary others, rep.primary = some primary ∧ rep.connected = primary :: others ∧
        others.Sublist (devices.map (·.id))) :
    DevicesAccounted connectAuto devices preferred completed outc rep := by
  refine ⟨fun device hv _ => ?_, fun device _ hd => ?_, ho⟩
  · exact (h.count_eq _).trans (count_eq_one_of_mem hids (mem_map_of_mem hv))
  · rw [Dropped, he] at hd
    cases hd.1

variable {client : AirPlayClient τ} {attempt : Attempt τ}

/-- Nobody became the primary. -/
theorem nobody_accounts (hi : client.stored = [])
    (he : elect connectAuto preferred completed = (attempt, none))
    {gone : List DeviceId} (hn : Rounds connectAuto devices gone attempt)
    (hg : attempt.primaryAttemptLog = gone) :
    let rep : GroupConnectReport := { failures := attempt.failures }
    DevicesAccounted connectAuto devices preferred completed
        (client.finish attempt.tearDownAll rep) rep ∧
      LinksAccounted (client.finish attempt.tearDownAll rep) := by
  have hs : (gone ++ attempt.links.map (·.device.id)).Nodup :=
    hn.tried.nodup_iff.mpr (hids.sublist ((filter_sublist).map _))
  have hdropp : ∀ device ∈ devices, Dropped connectAuto preferred completed
      (client.finish attempt.tearDownAll { failures := attempt.failures }) device
        ↔ device.id ∈ attempt.links.map (·.device.id) := by
    intro device hd
    have hl : Establishes connectAuto device = true ↔
        device.id ∈ gone ∨ device.id ∈ attempt.links.map (·.device.id) := by
      rw [← mem_append, hn.tried.mem_iff]
      refine ⟨fun hl => mem_map_of_mem (mem_filter.mpr ⟨hd, hl⟩), ?_⟩
      intro hmem
      obtain ⟨_, ho, hm⟩ := mem_map.mp hmem
      obtain ⟨ho, hl⟩ := mem_filter.mp ho
      rwa [inj_on_of_nodup_map hids ho hd hm] at hl
    unfold Dropped
    rw [he, hl, show (client.finish attempt.tearDownAll
      { failures := attempt.failures }).primaryAttemptLog = gone from hg]
    refine ⟨fun hr => hr.2.1.resolve_left hr.2.2, fun hmem => ⟨rfl, .inr hmem, ?_⟩⟩
    exact fun hgn => (nodup_append.mp hs).2.2 _ hgn _ hmem rfl
  have hc : ∀ device ∈ devices, (attempt.failures.map (·.receiver)).count device.id
      + (attempt.links.map (·.device.id)).count device.id = 1 := by
    intro device hd
    rw [← count_append, hn.devices_perm.count_eq]
    exact count_eq_one_of_mem hids (mem_map_of_mem hd)
  intro rep
  refine ⟨⟨fun device hd hk => ?_, fun device hd hr => ?_, .inl ⟨rfl, rfl⟩⟩,
    .of_perm (hn.distinct hids) ?_⟩
  · have hu := count_eq_zero.mpr ((hdropp device hd).not.mp hk)
    have hall := hc device hd
    rw [hu] at hall
    exact hall
  · have hu := count_eq_one_of_mem (nodup_append.mp hs).2.1 ((hdropp device hd).mp hr)
    have hall := hc device hd
    rw [hu] at hall
    exact Nat.succ.inj hall
  · rw [show (client.finish attempt.tearDownAll rep).client.stored = [] from hi]
    exact hn.links_perm

/-- A lone survivor: its first link is torn down, and the second is stored or
torn down too. -/
theorem survivor_accounts (hc : client.stored = [])
    (he : (elect connectAuto preferred completed).2 = some elected) (hn : primary.link = some link)
    (h : Session devices primary link attempt []) :
    ∃ rep, (client.finishSingleSurvivorSession connectAuto attempt primary).report = .ok rep ∧
      DevicesAccounted connectAuto devices preferred completed
        (client.finishSingleSurvivorSession connectAuto attempt primary) rep ∧
      LinksAccounted (client.finishSingleSurvivorSession connectAuto attempt primary) := by
  have hl : (attempt.tornDown ++ [link.key]).Perm attempt.established :=
    (perm_append_singleton _ _).trans h.links
  -- the survivor fails after all
  have hf : ∀ fail : MemberFailure, fail.receiver = primary.device.id →
      ((attempt.failures ++ [fail]).map (·.receiver)).Perm (devices.map (·.id)) := by
    intro fail hr
    rw [map_append, map_singleton, hr]
    exact (perm_append_singleton _ _).trans h.members
  unfold finishSingleSurvivorSession
  rw [hn]
  cases ha : connectMember connectAuto primary.device .ntp with
  | error =>
    refine ⟨_, rfl, .of_perm hids he (hf _ (connectMember_error ha))
      (.inl ⟨rfl, rfl⟩), .of_perm h.distinct ?_⟩
    rw [show (client.finish _ _).client.stored = [] from hc]
    exact hl
  | ok again =>
    obtain ⟨hv, hpr⟩ := connectMember_ok ha
    have hd : (attempt.established ++ [again.key]).Nodup := by
      refine nodup_append.mpr ⟨h.distinct, nodup_singleton _, fun key hk other ho hs => ?_⟩
      have hp := h.onlyPtp key hk
      rw [hs, mem_singleton.mp ho, GroupMemberLink.key, hpr] at hp
      cases hp
    dsimp only
    cases ht : again.conn.setupStream with
    | ok =>
      refine ⟨_, rfl, .of_perm hids he h.members
        (.inr ⟨_, [], rfl, rfl, nil_sublist _⟩), .of_perm hd ?_⟩
      exact (hl.cons again.key).trans (perm_append_singleton _ _).symm
    | error =>
      refine ⟨_, rfl, .of_perm hids he (hf _ (congrArg (·.id) hv))
        (.inl ⟨rfl, rfl⟩), .of_perm hd ?_⟩
      rw [show (client.finish _ _).client.stored = [] from hc]
      exact hl.append_right _

theorem store_accounts
    (he : (elect connectAuto preferred completed).2 = some elected) (hl : primary.link = some link)
    {survivors : List Nat}
    (h : Session devices primary link attempt survivors) :
    ∃ rep, (client.storeSession attempt primary survivors).report = .ok rep ∧
      DevicesAccounted connectAuto devices preferred completed
        (client.storeSession attempt primary survivors) rep ∧
      LinksAccounted (client.storeSession attempt primary survivors) := by
  refine ⟨_, rfl, .of_perm hids he h.members (.inr ⟨_, _, rfl, rfl, h.order⟩),
    .of_perm h.distinct ?_⟩
  have hs : (client.storeSession attempt primary survivors).client.stored
      = link :: survivors.filterMap attempt.linkAt := by
    unfold storeSession stored AirPlayClient.finish
    rw [hl]
    rfl
  rw [hs]
  exact h.links

end Endings

/-- All that a call accounts for. -/
structure GroupAccounted (connectAuto : ConnectAuto τ) (devices : List Device)
    (preferred : Option DeviceId) (completed : List (Device × Nat)) (outcome : Outcome τ)
    (report : GroupConnectReport) : Prop where
  members : DevicesAccounted connectAuto devices preferred completed outcome report
  links : LinksAccounted outcome
  primaries : PrimariesTried connectAuto devices preferred outcome.primaryAttemptLog

section Runs

variable (client : AirPlayClient τ) (connectAuto : ConnectAuto τ) {devices : List Device}
  (preferred : Option DeviceId) {completed : List (Device × Nat)}

theorem finishSingleSurvivorSession_log (attempt : Attempt τ) (survivor : EstablishedMember τ) :
    (client.finishSingleSurvivorSession connectAuto attempt survivor).primaryAttemptLog
      = attempt.primaryAttemptLog := by
  unfold finishSingleSurvivorSession
  split
  · rfl
  · split <;> rfl

theorem connectMembers_accounted (hids : (devices.map (·.id)).Nodup)
    (hcompleted : completed.Perm devices.zipIdx) (hc : client.stored = []) :
    ∃ rep, (client.connectMembers connectAuto preferred completed).report = .ok rep ∧
      GroupAccounted connectAuto devices preferred completed
        (client.connectMembers connectAuto preferred completed) rep := by
  have ht := @elect_tried τ connectAuto devices preferred completed hids hcompleted
  obtain ⟨_, hr, hn, hw⟩ := electPrimary_rounds hids 2 (establish_rounds preferred hcompleted)
    (establish_untried connectAuto preferred completed).2
  change Rounds _ _ _ (elect connectAuto preferred completed).1 at hr
  change (elect connectAuto preferred completed).2 = none → _ at hn
  change ∀ elected, (elect connectAuto preferred completed).2 = some elected → _ at hw
  unfold connectMembers
  cases he : elect connectAuto preferred completed with
  | mk attempt elected =>
    rw [show electPrimary 2 _ = (attempt, elected) from he] at hn hw
    rw [he] at ht hr hn hw
    cases elected with
    | none =>
      obtain ⟨hd, hl⟩ := nobody_accounts hids hc he hr (hn rfl)
      exact ⟨_, rfl, hd, hl, ht⟩
    | some elected =>
      obtain ⟨primary, ha, hlinke⟩ := hw elected rfl
      obtain ⟨link, hln⟩ := Option.isSome_iff_exists.mp hlinke
      obtain ⟨hs, hm, hg⟩ := hr.session hids ha hln client.renderDelayMs
      have hsm : (elect connectAuto preferred completed).2 = some elected := by rw [he]
      dsimp only at hs hm hg ⊢
      generalize attempt.joinSecondaries elected client.renderDelayMs = joined at hs hm hg ⊢
      obtain ⟨after, survivors⟩ := joined
      rw [← hg] at ht
      rw [memberAt, hm, ha]
      cases survivors with
      | nil =>
        obtain ⟨rep, hp, hd, hl⟩ := survivor_accounts hids hc hsm hln hs
        refine ⟨rep, hp, hd, hl, ?_⟩
        change PrimariesTried _ _ _
          (client.finishSingleSurvivorSession connectAuto after primary).primaryAttemptLog
        rw [finishSingleSurvivorSession_log]
        exact ht
      | cons =>
        obtain ⟨rep, hp, hd, hl⟩ := store_accounts hids hsm hln hs
        exact ⟨rep, hp, hd, hl, ht⟩

theorem disconnect_stored {disconnected : Except Error Unit}
    (h : (client.disconnect disconnected).2 = .ok ()) :
    (client.disconnect disconnected).1.stored = [] := by
  unfold disconnect at h ⊢
  dsimp only at h ⊢
  split
  · rename_i hc
    rw [hc] at h
    cases h
  · rfl
  · rfl

/-- A best-effort group connect accounts for its devices and its links, and the
order in which the establishments end changes nothing. -/
theorem group_connect_accounts (hids : (devices.map (·.id)).Nodup)
    (hcompleted : completed.Perm devices.zipIdx) (disconnected cookie : Except Error Unit)
    {report : GroupConnectReport}
    (hreport : (client.connectGroupBestEffort connectAuto devices preferred completed
      disconnected cookie).report = .ok report) :
    GroupAccounted connectAuto devices preferred completed
      (client.connectGroupBestEffort connectAuto devices preferred completed disconnected cookie)
      report ∧
    ∀ other : List (Device × Nat), other.Perm devices.zipIdx →
      client.connectGroupBestEffort connectAuto devices preferred other disconnected cookie
        = client.connectGroupBestEffort connectAuto devices preferred completed disconnected
            cookie := by
  constructor
  · unfold connectGroupBestEffort at hreport ⊢
    split at hreport
    · cases hreport
    · rename_i hn
      rw [if_neg hn]
      split at hreport
      · cases hreport
      · have hs := @disconnect_stored τ client disconnected
        generalize client.disconnect disconnected = ended at hreport hs ⊢
        obtain ⟨client', result⟩ := ended
        cases result with
        | error => cases hreport
        | ok =>
          cases cookie with
          | error => cases hreport
          | ok =>
            obtain ⟨_, hr', ha⟩ := connectMembers_accounted client'
              connectAuto preferred hids hcompleted (hs rfl)
            rw [hr'] at hreport
            cases hreport
            exact ha
  · intro other ho
    have hm : ∀ client : AirPlayClient τ, client.connectMembers connectAuto preferred other
          = client.connectMembers connectAuto preferred completed := by
      intro client
      unfold connectMembers elect establish
      rw [establishAll_eq connectAuto ho, establishAll_eq connectAuto hcompleted]
    unfold connectGroupBestEffort
    simp only [hm]

end Runs

/-! ## Three receivers -/

/-- A receiver that can lead, on a link where only the peers may be refused. -/
def stubDevice (octet : BitVec 48) : Device where
  id := ⟨octet⟩
  addresses := [.v4 0x7F000001]
  features := SUPPORTS_PTP
  sourceVersion := MIN_PTP_VERSION

def stubConnection (setpeers : Except Error Unit) : Connection Unit where
  setupStream := .ok ()
  ptpClockRx := some ()
  joinGroupTiming := fun _ _ => .ok ()
  sendSetpeers := fun _ => setpeers

def threeDevices : List Device := [stubDevice 1, stubDevice 2, stubDevice 3]

/-- The first two refuse the peers. -/
def twoRefuse : ConnectAuto Unit := fun device _ =>
  .ok (stubConnection
    (if device.id = ⟨3⟩ then .ok () else .error (.setupFailed "SETPEERS refused")))

/-- The first one does. -/
def oneRefuses : ConnectAuto Unit := fun device _ =>
  .ok (stubConnection
    (if device.id = ⟨1⟩ then .error (.setupFailed "SETPEERS refused") else .ok ()))

/-- Two members fail as primary. The third has a link that never failed; it is
torn down, and the report does not mention it. -/
theorem third_member_unreported : ∃ report,
    (({} : AirPlayClient Unit).connectGroupBestEffort twoRefuse threeDevices none
      threeDevices.zipIdx (.ok ()) (.ok ())).report = .ok report ∧
    (threeDevices.map (·.id)).Nodup ∧
    ¬ ∀ device ∈ threeDevices, report.mentions device = 1 :=
  ⟨_, rfl, by decide, by decide⟩

theorem group_connect_accounts_three : ∃ report,
    (({} : AirPlayClient Unit).connectGroupBestEffort oneRefuses threeDevices (some ⟨1⟩)
      threeDevices.zipIdx (.ok ()) (.ok ())).report = .ok report ∧
    report.connected = [⟨2⟩, ⟨3⟩] ∧
    GroupAccounted oneRefuses threeDevices (some ⟨1⟩) threeDevices.zipIdx
      (({} : AirPlayClient Unit).connectGroupBestEffort oneRefuses threeDevices (some ⟨1⟩)
        threeDevices.zipIdx (.ok ()) (.ok ())) report :=
  ⟨_, rfl, by decide, (group_connect_accounts {} oneRefuses (some ⟨1⟩) (by decide)
    (List.Perm.refl _) (.ok ()) (.ok ()) rfl).1⟩

end OpenAirCast.Client
