/-
Bridge.EndpointKeyTheorems — an endpoint key means one endpoint
for good.

The keys of a table are the numbers below `next` in order, and its ids are
distinct (`Sound`), so a key and an id find the same entry (`resolves_iff`).
A table that a projection leaves behind still gives every known id its key,
and `endpoint_keys_keep_meaning` reads the rest off the last table of the run.
-/
import OpenAirCast.Bridge.LevelTheorems

namespace OpenAirCast.Bridge

open OpenAirCast.Backend List EndpointTable Option Mealy
open Mealy (Turn turn trace run)

variable {endpoint : AudioEndpoint}

namespace EndpointTable

variable {key : AudioEndpointKey}

/-! ## Sound tables -/

/-- The keys count up from zero, and no id has two. -/
structure Sound (table : EndpointTable) : Prop where
  keys : table.known.map (·.key) = (List.range table.next).map AudioEndpointKey.mk
  ids : (table.known.map (·.id)).Nodup

/-- The key leads back to this id. -/
def Resolves (table : EndpointTable) (key : AudioEndpointKey) (id : String) : Prop :=
  ∃ name, table.preference key = some (.explicit id name)

theorem sound_empty : Sound {} := ⟨rfl, nodup_nil⟩

theorem map_key_refreshName (endpoint : AudioEndpoint) : ∀ known,
    (refreshName endpoint known).map (·.key) = known.map (·.key)
  | [] => rfl
  | entry :: rest => by
      unfold refreshName
      split
      · rfl
      · rw [map_cons, map_cons, map_key_refreshName endpoint rest]

theorem map_id_refreshName (endpoint : AudioEndpoint) : ∀ known,
    (refreshName endpoint known).map (·.id) = known.map (·.id)
  | [] => rfl
  | entry :: rest => by
      unfold refreshName
      split
      · rfl
      · rw [map_cons, map_cons, map_id_refreshName endpoint rest]

variable {table : EndpointTable}

/-- Keying one more endpoint keeps a table sound. -/
theorem Sound.keyFor (h : table.Sound) (endpoint : AudioEndpoint) :
    (table.keyFor endpoint).1.Sound := by
  by_cases hk : Knows table.known endpoint.id
  · rw [keyFor_of_known hk]
    constructor
    · simpa [map_key_refreshName] using h.keys
    · simpa [map_id_refreshName] using h.ids
  · rw [keyFor_of_unknown hk]
    constructor
    · simp [range_succ, h.keys]
    · -- the id at the end is a new one
      have hn : endpoint.id ∉ table.known.map (·.id) := by
        intro hmem
        obtain ⟨ent, he, hi⟩ := mem_map.mp hmem
        exact hk ⟨ent, he, hi⟩
      rw [map_append]
      exact nodup_append'.mpr ⟨h.ids, nodup_singleton _, by simpa using hn⟩

theorem Sound.keyAll (h : table.Sound) (endps : List AudioEndpoint) :
    (table.keyAll endps).Sound := by
  induction endps using List.reverseRecOn with
  | nil => exact h
  | append_singleton _ last ih =>
    rw [keyAll_concat]
    exact ih.keyFor last

theorem Sound.entry_eq (h : table.Sound) {a b : EndpointEntry}
    (ha : a ∈ table.known) (hb : b ∈ table.known) (hk : a.key = b.key) : a = b := by
  have hn : (table.known.map (·.key)).Nodup := by
    rw [h.keys]
    exact nodup_range.map (fun x y hx => by cases hx; rfl)
  exact inj_on_of_nodup_map hn ha hb hk

theorem Sound.entry_eq_of_id (h : table.Sound) {a b : EndpointEntry}
    (ha : a ∈ table.known) (hb : b ∈ table.known) (hi : a.id = b.id) : a = b :=
  inj_on_of_nodup_map h.ids ha hb hi

/-- A key leads back to an id exactly when it is the key of that id. -/
theorem Sound.resolves_iff (h : table.Sound)
    {id : String} : table.Resolves key id ↔ table.keyOf id = some key := by
  constructor
  · rintro ⟨name, hn⟩
    obtain ⟨ent, hf, he⟩ := map_eq_some_iff.mp hn
    have hmem := mem_of_find?_eq_some hf
    have hk : ent.key = key := by simpa using find?_some hf
    cases he
    obtain ⟨other, ho⟩ := isSome_iff_exists.mp (knows_iff_find.mp ⟨ent, hmem, rfl⟩)
    have hi : other.id = ent.id := by simpa using find?_some ho
    have hs := h.entry_eq_of_id (mem_of_find?_eq_some ho) hmem hi
    rw [keyOf, ho, hs]
    exact congrArg some hk
  · intro hkeyOf
    obtain ⟨ent, hf, hk⟩ := map_eq_some_iff.mp hkeyOf
    have hmem := mem_of_find?_eq_some hf
    have hi : ent.id = id := by simpa using find?_some hf
    have hso : (table.known.find? (fun ent => ent.key = key)).isSome := by
      rw [find?_isSome]
      exact ⟨ent, hmem, by simpa using hk⟩
    obtain ⟨other, ho⟩ := isSome_iff_exists.mp hso
    have hm : other.key = key := by simpa using find?_some ho
    have hs := h.entry_eq (mem_of_find?_eq_some ho) hmem (hm.trans hk.symm)
    refine ⟨ent.name, ?_⟩
    rw [preference, ho, hs, ← hi]
    rfl

/-- No key is that of two ids. -/
theorem Sound.keyOf_inj (h : table.Sound)
    {a b : String} (ha : table.keyOf a = some key) (hb : table.keyOf b = some key) : a = b := by
  obtain ⟨name, hn⟩ := h.resolves_iff.mpr ha
  obtain ⟨_, hn'⟩ := h.resolves_iff.mpr hb
  rw [hn] at hn'
  cases hn'
  rfl

theorem knows_of_keyOf {id : String} (h : table.keyOf id = some key) : Knows table.known id := by
  obtain ⟨_, hf, -⟩ := map_eq_some_iff.mp h
  exact knows_iff_find.mpr (by rw [hf]; rfl)

end EndpointTable

/-! ## Projections one after the other -/

variable (table : EndpointTable) (source : AudioSourceSnapshot)

/-- One projection through the table. -/
def echoStep : EndpointTable × AudioSourceReading :=
  audioEcho source table

abbrev EchoTurn := Turn EndpointTable AudioSourceSnapshot AudioSourceReading

theorem echo_fst : (echoStep table source).1 = table.keyAll (keyed source) := by
  rw [echoStep, audioEcho_eq]

theorem echo_snd :
    (echoStep table source).2 = readingUnder source (table.keyAll (keyed source)) := by
  rw [echoStep, audioEcho_eq]

variable (sources : List AudioSourceSnapshot)

variable {table}

/-- Any number of projections keeps a table sound. -/
theorem sound_run (h : table.Sound) : (run echoStep table sources).Sound := by
  refine run_invariant (fun table source h => ?_) h sources
  rw [echo_fst]
  exact h.keyAll _

variable {key : AudioEndpointKey}

/-- A known id keeps its key over any number of projections. -/
theorem keyOf_run {id : String} (h : table.keyOf id = some key) :
    (run echoStep table sources).keyOf id = some key := by
  have hs : ∀ (table : EndpointTable) (source : AudioSourceSnapshot),
      table.keyOf id = some key → (echoStep table source).1.keyOf id = some key := by
    intro table source h
    rw [echo_fst, keyOf_keyAll _ (knows_of_keyOf h), h]
  exact run_invariant hs h sources

variable {source : AudioSourceSnapshot}

/-- Every keyed endpoint has its key in the table afterwards. -/
theorem keyOf_keyed (table : EndpointTable) (h : endpoint ∈ keyed source) :
    ∃ key, (echoStep table source).1.keyOf endpoint.id = some key := by
  rw [echo_fst]
  have hk : EndpointTable.Knows (table.keyAll (keyed source)).known endpoint.id :=
    knows_keyAll (keyed source) (.inr ⟨endpoint, h, rfl⟩)
  obtain ⟨ent, he⟩ := isSome_iff_exists.mp (knows_iff_find.mp hk)
  exact ⟨ent.key, by rw [EndpointTable.keyOf, he]; rfl⟩

theorem mem_zip_map {α β : Type} {f : α → β} {xs : List α} {x : α} {y : β} :
    (x, y) ∈ xs.zip (xs.map f) ↔ x ∈ xs ∧ y = f x := by
  induction xs with
  | nil => simp
  | cons _ _ ih =>
    simp only [map_cons, zip_cons_cons, mem_cons, Prod.mk.injEq, ih]
    constructor
    · rintro (⟨rfl, rfl⟩ | ⟨hmem, rfl⟩)
      · exact ⟨.inl rfl, rfl⟩
      · exact ⟨.inr hmem, rfl⟩
    · rintro ⟨rfl | hmem, rfl⟩
      · exact .inl ⟨rfl, rfl⟩
      · exact .inr ⟨hmem, rfl⟩

/-- The selection is a key exactly while the preference names an active
endpoint, whose key it is. -/
theorem chosen_iff : (readingUnder source table).selection = .chosen key ↔
      ∃ id name, source.preference = .explicit id name ∧
        (∃ endpoint ∈ source.activeEndpoints.getD [], endpoint.id = id) ∧
        key = (table.keyOf id).getD ⟨0⟩ := by
  unfold readingUnder selectionEcho
  cases hp : source.preference with
  | systemDefault => simp
  | explicit id lastKnownName =>
    dsimp only
    generalize hoff : (source.activeEndpoints.getD []).zip _ = offered
    constructor
    · intro h
      split at h
      · rename_i ent hf
        have hmem := mem_of_find?_eq_some hf
        have hi : ent.1.id = id := by simpa using find?_some hf
        rw [← hoff] at hmem
        obtain ⟨ha, hc⟩ := mem_zip_map.mp (show (ent.1, ent.2) ∈ _ from hmem)
        rw [hc, hi] at h
        cases h
        exact ⟨id, lastKnownName, rfl, ⟨ent.1, ha, hi⟩, rfl⟩
      · split at h <;> cases h
    · rintro ⟨_, _, he, ⟨endpoint, ha, hi⟩, rfl⟩
      cases he
      have hm : (offered.find? (fun ent => ent.1.id = id)).isSome := by
        rw [find?_isSome, ← hoff]
        exact ⟨(endpoint, _), mem_zip_map.mpr ⟨ha, rfl⟩, by simpa using hi⟩
      obtain ⟨ent, hf⟩ := isSome_iff_exists.mp hm
      have hmem := mem_of_find?_eq_some hf
      have hn : ent.1.id = id := by simpa using find?_some hf
      rw [← hoff] at hmem
      obtain ⟨-, hc⟩ := mem_zip_map.mp (show (ent.1, ent.2) ∈ _ from hmem)
      rw [hf]
      dsimp only
      rw [hc, hn]

/-- Every endpoint of a projection has its key for good. -/
theorem keyOf_of_mem {sources : List AudioSourceSnapshot} {t : EchoTurn}
    (ht : t ∈ trace echoStep {} sources) (h : endpoint ∈ keyed t.input) :
    ∃ key, t.after.keyOf endpoint.id = some key ∧
      (run echoStep {} sources).keyOf endpoint.id = some key := by
  obtain ⟨_, _, hs⟩ := append_of_mem ht
  obtain ⟨xs, ys, hn, hr, -, -⟩ := trace_split hs
  obtain ⟨key, hk⟩ := keyOf_keyed (run echoStep {} xs) h
  refine ⟨key, by rwa [hr], ?_⟩
  rw [hn, run_append]
  exact keyOf_run ys hk

/-- A key that a table gives leads back to its id in every later one. -/
theorem resolves_later {sources : List AudioSourceSnapshot}
    {front back : List EchoTurn} {t u : EchoTurn}
    (hs : trace echoStep {} sources = front ++ t :: back) (hu : u ∈ t :: back) {id : String}
    (h : t.after.keyOf id = some key) :
    u.after.Resolves key id := by
  obtain ⟨xs, _, -, hr, -, hb⟩ := trace_split hs
  have hl : ∃ zs, u.after = run echoStep t.after zs := by
    rcases mem_cons.mp hu with rfl | hu
    · exact ⟨[], rfl⟩
    · rw [hb] at hu
      obtain ⟨_, _, hs'⟩ := append_of_mem hu
      obtain ⟨zs, -, -, ht', -, -⟩ := trace_split hs'
      refine ⟨zs ++ [u.input], ?_⟩
      rw [run_concat, ht']
      rfl
  obtain ⟨zs, hz⟩ := hl
  have ha : t.after.Sound := by
    rw [hr]
    exact sound_run [t.input] (sound_run xs sound_empty)
  rw [hz]
  exact (sound_run zs ha).resolves_iff.mpr (keyOf_run zs h)

/-- Over all projections every endpoint has one key, and different ids have
different keys. A reading offers exactly the active endpoints under their
keys, names the captured one by its key, and its selection is a key exactly
while the preference names an active endpoint, whose key it is. Each key leads
back to its id in the table of the projection and in every later one. -/
theorem endpoint_keys_keep_meaning (sources : List AudioSourceSnapshot) :
    ∃ key : String → AudioEndpointKey,
      (∀ t ∈ trace echoStep {} sources, ∀ u ∈ trace echoStep {} sources,
        ∀ endpoint ∈ keyed t.input, ∀ other ∈ keyed u.input,
          (key endpoint.id = key other.id ↔ endpoint.id = other.id)) ∧
      (∀ t ∈ trace echoStep {} sources,
        t.output.endpoints = (t.input.activeEndpoints.getD []).map (fun endpoint =>
          { key := key endpoint.id, name := endpoint.name }) ∧
        t.output.capturedKey = t.input.capturedEndpoint.map (fun endpoint => key endpoint.id) ∧
        ∀ chosen, t.output.selection = .chosen chosen ↔ ∃ id name,
          t.input.preference = .explicit id name ∧
          (∃ endpoint ∈ t.input.activeEndpoints.getD [], endpoint.id = id) ∧ chosen = key id) ∧
      ∀ front t back, trace echoStep {} sources = front ++ t :: back → ∀ u ∈ t :: back,
        ∀ endpoint ∈ keyed t.input, u.after.Resolves (key endpoint.id) endpoint.id := by
  have hsn := sound_run sources sound_empty
  let key : String → AudioEndpointKey := fun id => ((run echoStep {} sources).keyOf id).getD ⟨0⟩
  have hg : ∀ t ∈ trace echoStep {} sources, ∀ endpoint ∈ keyed t.input,
      t.after.keyOf endpoint.id = some (key endpoint.id) ∧
        (run echoStep {} sources).keyOf endpoint.id = some (key endpoint.id) := by
    intro t ht endpoint he
    obtain ⟨k, ha, hr⟩ := keyOf_of_mem ht he
    have hk : key endpoint.id = k := by simp only [key, hr, getD_some]
    exact ⟨hk ▸ ha, hk ▸ hr⟩
  refine ⟨key, ?_, ?_, ?_⟩
  · intro t ht u hu endpoint he other ho
    have hk := (hg t ht endpoint he).2
    constructor
    · intro hx
      rw [hx] at hk
      exact hsn.keyOf_inj hk (hg u hu other ho).2
    · intro hi
      rw [hi]
  · intro t ht
    have hk : ∀ endpoint ∈ keyed t.input,
        (t.after.keyOf endpoint.id).getD ⟨0⟩ = key endpoint.id := by
      intro endpoint he
      rw [(hg t ht endpoint he).1, getD_some]
    have ho : t.output = readingUnder t.input t.after := by
      obtain ⟨_, _, hs⟩ := append_of_mem ht
      obtain ⟨_, -, -, hr, -, -⟩ := trace_split hs
      rw [hr]
      show (echoStep _ t.input).2 = readingUnder t.input (echoStep _ t.input).1
      rw [echo_snd, echo_fst]
    rw [ho]
    refine ⟨?_, ?_, ?_⟩
    · refine map_congr_left fun endpoint he => ?_
      dsimp only
      rw [hk endpoint (mem_append_left _ he)]
    · cases hc : t.input.capturedEndpoint with
      | none => simp [readingUnder, hc]
      | some endpoint =>
        have he : endpoint ∈ keyed t.input := by simp [keyed, hc]
        simp [readingUnder, hc, hk endpoint he]
    · intro chosen
      rw [chosen_iff]
      refine exists_congr fun id => exists_congr fun name => and_congr_right fun _ =>
        and_congr_right fun hm => ?_
      obtain ⟨endpoint, he, rfl⟩ := hm
      rw [hk endpoint (mem_append_left _ he)]
  · intro front t back hs u hu endpoint he
    have ht : t ∈ trace echoStep {} sources := by rw [hs]; simp
    exact resolves_later hs hu (hg t ht endpoint he).1

end OpenAirCast.Bridge
