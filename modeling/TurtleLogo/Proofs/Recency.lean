import TurtleLogo.Proofs.Caching

/-!
# Which renders come from the cache

The cache holds the drawings of the programs that were rendered last. A render comes from it exactly
if its program was rendered with success before, and fewer other programs than the cache has room
for were rendered with success since then. Renders that fail do not count.
-/

set_option autoImplicit false

namespace TurtleLogo

/-! ## The latest members of a list -/

section Latest

variable {α : Type} [DecidableEq α] {a : α} {n : Nat} {l : List α}

/-- The distinct members of a list, the one that occurred last in front. -/
def latest (l : List α) : List α :=
  l.dedup.reverse

theorem nodup_latest (l : List α) : (latest l).Nodup :=
  List.nodup_reverse.mpr l.nodup_dedup

theorem mem_latest : a ∈ latest l ↔ a ∈ l := by
  rw [latest, List.mem_reverse, List.mem_dedup]

theorem dedup_concat (l : List α) (a : α) : (l ++ [a]).dedup = l.dedup.filter (· ≠ a) ++ [a] := by
  induction l with
  | nil => rfl
  | cons b l ih =>
    by_cases here : b = a
    · subst here
      by_cases again : b ∈ l
      · simp [again, ih]
      · simp [again, ih]
    · by_cases again : b ∈ l
      · simp [again, ih]
      · simp [again, here, ih]

theorem latest_concat (l : List α) (a : α) :
    latest (l ++ [a]) = a :: (latest l).filter (· ≠ a) := by
  simp [latest, dedup_concat]

theorem filter_ne_of_notMem (missing : a ∉ l) : l.filter (· ≠ a) = l := by
  rw [List.filter_eq_self]
  intro b member
  have other : b ≠ a := by
    rintro rfl
    exact missing member
  simpa using other

/-- Without one of its members, the first `n` of a list are among the first `n + 1`. -/
theorem take_filter_ne (nodup : l.Nodup) (a : α) (n : Nat) :
    ((l.take (n + 1)).filter (· ≠ a)).take n = (l.filter (· ≠ a)).take n := by
  induction l generalizing n with
  | nil => rfl
  | cons b l ih =>
    obtain ⟨missing, nodup⟩ := List.nodup_cons.mp nodup
    by_cases here : b = a
    · subst here
      have missing' : b ∉ l.take n := fun member => missing (List.mem_of_mem_take member)
      rw [List.take_succ_cons, List.filter_cons_of_neg (by simp), List.filter_cons_of_neg (by simp),
        filter_ne_of_notMem missing, filter_ne_of_notMem missing', List.take_take, Nat.min_self]
    · cases n with
      | zero => rfl
      | succ n =>
        rw [List.take_succ_cons, List.filter_cons_of_pos (by simpa using here),
          List.filter_cons_of_pos (by simpa using here), List.take_succ_cons, List.take_succ_cons,
          ih nodup]

/-- The member used last comes to the front; of those kept before, all but the last one stay. -/
theorem take_used (nodup : l.Nodup) (a : α) (n : Nat) :
    (a :: (l.take n).filter (· ≠ a)).take n = (a :: l.filter (· ≠ a)).take n := by
  cases n with
  | zero => rfl
  | succ n => rw [List.take_succ_cons, List.take_succ_cons, take_filter_ne nodup]

theorem length_used_le (held : a ∈ l.take n) : (a :: (l.take n).filter (· ≠ a)).length ≤ n := by
  have shorter : ((l.take n).filter (· ≠ a)).length < (l.take n).length := by
    rw [List.length_filter_lt_length_iff_exists]
    exact ⟨a, held, by simp⟩
  have bound := List.length_take_le n l
  rw [List.length_cons]
  omega

omit [DecidableEq α] in
theorem mem_take_append_cons {before behind : List α} (first : a ∉ before) :
    a ∈ (before ++ a :: behind).take n ↔ before.length < n := by
  rw [List.take_append]
  constructor
  · intro member
    by_contra long
    have full : n - before.length = 0 := by omega
    rw [full, List.take_zero, List.append_nil] at member
    exact first (List.mem_of_mem_take member)
  · intro short
    apply List.mem_append_right
    obtain ⟨room, eq⟩ : ∃ room, n - before.length = room + 1 := ⟨n - before.length - 1, by omega⟩
    rw [eq, List.take_succ_cons]
    exact List.mem_cons_self

/-- Whether a member is among the first `n` depends on how many others occurred behind it. -/
theorem mem_take_latest_of_split {before since : List α} (last : a ∉ since) :
    a ∈ (latest (before ++ a :: since)).take n ↔ since.toFinset.card < n := by
  have suffix : a :: since.dedup <:+ (before ++ a :: since).dedup := by
    rw [List.dedup_append, List.dedup_cons_of_notMem last]
    exact List.suffix_union_right ..
  obtain ⟨earlier, split⟩ := suffix
  have order : latest (before ++ a :: since) = since.dedup.reverse ++ a :: earlier.reverse := by
    simp [latest, ← split]
  rw [order, mem_take_append_cons (by simpa using last), List.length_reverse, List.card_toFinset]

theorem mem_take_latest :
    a ∈ (latest l).take n ↔
      ∃ before since, l = before ++ a :: since ∧ a ∉ since ∧ since.toFinset.card < n := by
  constructor
  · intro held
    have member : a ∈ l.reverse := List.mem_reverse.mpr (mem_latest.mp (List.mem_of_mem_take held))
    obtain ⟨since, before, split, last⟩ := List.eq_append_cons_of_mem member
    have whole : l = before.reverse ++ a :: since.reverse := by
      rw [← List.reverse_reverse l, split]
      simp
    have last' : a ∉ since.reverse := by simpa using last
    rw [whole, mem_take_latest_of_split last'] at held
    exact ⟨before.reverse, since.reverse, whole, last', held⟩
  · rintro ⟨before, since, rfl, last, few⟩
    exact (mem_take_latest_of_split last).mpr few

end Latest

/-! ## The keys of a cache -/

namespace Cache

def keys (c : Cache) : List Text :=
  c.entries.map Prod.fst

theorem map_without (key : Text) (entries : List (Text × Text)) :
    (without key entries).map Prod.fst = (entries.map Prod.fst).filter (· ≠ key) := by
  rw [without, List.filter_map]
  congr 1
  apply List.filter_congr
  intro entry _
  by_cases same : entry.1 = key <;> simp [same]

theorem keys_put (c : Cache) (key value : Text) :
    (c.put key value).keys = (key :: c.keys.filter (· ≠ key)).take c.capacity := by
  rw [keys, put, List.map_take, List.map_cons, map_without]
  rfl

theorem keys_look {c used : Cache} {key value : Text} (found : c.look key = some (value, used)) :
    used.keys = key :: c.keys.filter (· ≠ key) := by
  rw [keys, (look_eq_some found).2, List.map_cons, map_without]
  rfl

theorem capacity_look {c used : Cache} {key value : Text}
    (found : c.look key = some (value, used)) : used.capacity = c.capacity := by
  unfold look at found
  split at found
  · cases found
  · cases found
    rfl

theorem look_eq_none_iff (c : Cache) (key : Text) : c.look key = none ↔ key ∉ c.keys := by
  unfold look
  split
  · rename_i missing
    refine ⟨fun _ => ?_, fun _ => rfl⟩
    intro member
    obtain ⟨entry, inside, same⟩ := List.mem_map.mp member
    have other := List.find?_eq_none.mp missing entry inside
    simp [same] at other
  · rename_i key' value' entry
    have hit : key' = key := by simpa using List.find?_some entry
    have member : key' ∈ c.keys := List.mem_map_of_mem (List.mem_of_find?_eq_some entry)
    simp [← hit, member]

end Cache

/-! ## Renders one after another -/

theorem Response.status_runFailure (e : RunError) : (runFailure e).status ∈ [422, 500, 503] := by
  cases e with
  | diagnosed d => exact List.mem_cons_self
  | interrupted steps reason => cases reason <;> simp [runFailure, failure, json]

theorem Response.cacheNote_runFailure (e : RunError) : (runFailure e).cacheNote = [] := by
  cases e with
  | diagnosed d => rfl
  | interrupted steps reason => cases reason <;> rfl

namespace Server

def renderAll (s : Server) : List (Occasion × Text) → Server × List (Text × Response)
  | [] => (s, [])
  | (o, source) :: later =>
    let (next, response) := s.answer o (.post "/render" source)
    let (last, answers) := next.renderAll later
    (last, (source, response) :: answers)

def served (answers : List (Text × Response)) : List Text :=
  (answers.filter fun answer => answer.2.status == 200).map Prod.fst

def Apart (bodies : List Text) : Prop :=
  ∀ a ∈ bodies, ∀ b ∈ bodies, Fingerprint.of a = Fingerprint.of b → a = b

/-- The cache has room for `n` drawings and holds those of the programs that were served last. -/
structure Remembers (s : Server) (n : Nat) (past : List Text) : Prop where
  capacity : s.cache.capacity = n
  keys : s.cache.keys = ((latest past).take n).map Fingerprint.of

section Remembers

variable {s : Server} {n : Nat} {past : List Text} {waits : Waits} {source : Text}

theorem Apart.mono {bodies more : List Text} (apart : Apart more) (subset : bodies ⊆ more) :
    Apart bodies := by
  intro a known b known'
  exact apart a (subset known) b (subset known')

theorem filter_map_fingerprint {bodies : List Text}
    (apart : ∀ body ∈ bodies, Fingerprint.of body = Fingerprint.of source → body = source) :
    (bodies.map Fingerprint.of).filter (· ≠ Fingerprint.of source) =
      (bodies.filter (· ≠ source)).map Fingerprint.of := by
  rw [List.filter_map]
  congr 1
  apply List.filter_congr
  intro body member
  by_cases same : body = source
  · simp [same]
  · have other : Fingerprint.of body ≠ Fingerprint.of source := mt (apart body member) same
    simp [same, other]

theorem Remembers.length_entries_le (remembers : s.Remembers n past) :
    s.cache.entries.length ≤ n := by
  have keys := congrArg List.length remembers.keys
  rw [Cache.keys, List.length_map, List.length_map] at keys
  rw [keys]
  exact List.length_take_le n _

theorem mem_of_mem_take_latest {body : Text} (member : body ∈ (latest past).take n) : body ∈ past :=
  mem_latest.mp (List.mem_of_mem_take member)

theorem Remembers.mem_keys (remembers : s.Remembers n past)
    (apart : ∀ body ∈ past, Fingerprint.of body = Fingerprint.of source → body = source) :
    Fingerprint.of source ∈ s.cache.keys ↔ source ∈ (latest past).take n := by
  rw [remembers.keys, List.mem_map]
  constructor
  · rintro ⟨body, held, same⟩
    rwa [← apart body (mem_of_mem_take_latest held) same]
  · intro held
    exact ⟨source, held, rfl⟩

/-- What is used last comes to the front, in the cache as among the programs that were served. -/
theorem Remembers.used (remembers : s.Remembers n past)
    (apart : ∀ body ∈ past, Fingerprint.of body = Fingerprint.of source → body = source) :
    let key := Fingerprint.of source
    (key :: s.cache.keys.filter (· ≠ key)).take n =
        ((latest (past ++ [source])).take n).map Fingerprint.of ∧
      (key ∈ s.cache.keys → (key :: s.cache.keys.filter (· ≠ key)).length ≤ n) := by
  intro key
  have bodies : key :: s.cache.keys.filter (· ≠ key) =
      (source :: ((latest past).take n).filter (· ≠ source)).map Fingerprint.of := by
    rw [remembers.keys, filter_map_fingerprint, List.map_cons]
    intro body member
    exact apart body (mem_of_mem_take_latest member)
  rw [bodies]
  refine ⟨?_, ?_⟩
  · rw [← List.map_take, take_used (nodup_latest past), latest_concat]
  · intro held
    rw [List.length_map]
    exact length_used_le ((remembers.mem_keys apart).mp held)

theorem status_of_drawn (succeeded : (s.drawn waits source).1.error = none) :
    (s.render waits source).2.response.status = 200 := by
  cases found : s.cache.look (Fingerprint.of source) with
  | some hit => rw [render_of_found found]; rfl
  | none => rw [render_of_drawn found succeeded]; rfl

/-- One render: whether it comes from the cache, and what the server remembers afterwards. -/
theorem Remembers.render (remembers : s.Remembers n past)
    (apart : ∀ body ∈ past, Fingerprint.of body = Fingerprint.of source → body = source)
    (waits : Waits) :
    let after := (s.render waits source).1
    let response := (s.render waits source).2.response
    (response.cacheNote = utf8 "hit" ↔ source ∈ (latest past).take n) ∧
      (response.status = 200 → after.Remembers n (past ++ [source])) ∧
      (response.status ≠ 200 → after = s) := by
  intro after response
  simp only [after, response]
  obtain ⟨front, short⟩ := remembers.used apart
  rw [← remembers.mem_keys apart]
  cases found : s.cache.look (Fingerprint.of source) with
  | some hit =>
    obtain ⟨svg, used⟩ := hit
    have held : Fingerprint.of source ∈ s.cache.keys := by
      by_contra missing
      rw [(Cache.look_eq_none_iff _ _).mpr missing] at found
      cases found
    rw [render_of_found found]
    refine ⟨iff_of_true rfl held, ?_, fun failed => absurd rfl failed⟩
    intro _
    refine ⟨(Cache.capacity_look found).trans remembers.capacity, ?_⟩
    rw [← front, List.take_of_length_le (short held)]
    exact Cache.keys_look found
  | none =>
    have missing := (Cache.look_eq_none_iff _ _).mp found
    cases outcome : (s.drawn waits source).1.error with
    | some e =>
      have status : (Response.runFailure e).status ≠ 200 :=
        ne_of_mem_of_not_mem (Response.status_runFailure e) (by decide)
      rw [render_of_failed found outcome]
      refine ⟨iff_of_false ?_ missing, fun ok => absurd ok status, fun _ => rfl⟩
      rw [Response.cacheNote_runFailure]
      decide
    | none =>
      have miss : utf8 "miss" ≠ utf8 "hit" := by decide
      rw [render_of_drawn found outcome]
      refine ⟨iff_of_false miss missing, ?_, fun failed => absurd rfl failed⟩
      · intro _
        refine ⟨remembers.capacity, ?_⟩
        rw [← front, ← remembers.capacity]
        exact Cache.keys_put ..

theorem fst_renderAll (s : Server) (visits : List (Occasion × Text)) :
    (s.renderAll visits).2.map Prod.fst = visits.map Prod.snd := by
  induction visits generalizing s with
  | nil => rfl
  | cons visit later ih => exact congrArg (visit.2 :: ·) (ih _)

theorem mem_of_mem_served {visits : List (Occasion × Text)} {body : Text}
    (member : body ∈ served (s.renderAll visits).2) : body ∈ visits.map Prod.snd := by
  rw [← fst_renderAll s]
  obtain ⟨answer, kept, rfl⟩ := List.mem_map.mp member
  exact List.mem_map_of_mem (List.mem_of_mem_filter kept)

theorem served_cons (source : Text) (response : Response) (answers : List (Text × Response)) :
    served ((source, response) :: answers) =
      (if response.status = 200 then [source] else []) ++ served answers := by
  by_cases ok : response.status = 200 <;> simp [served, ok]

theorem Remembers.renderAll (remembers : s.Remembers n past) (visits : List (Occasion × Text))
    (apart : Apart (past ++ visits.map Prod.snd)) :
    (s.renderAll visits).1.Remembers n (past ++ served (s.renderAll visits).2) := by
  induction visits generalizing s past with
  | nil => simpa [Server.renderAll, served] using remembers
  | cons visit later ih =>
    obtain ⟨o, source⟩ := visit
    have here : ∀ body ∈ past, Fingerprint.of body = Fingerprint.of source → body = source := by
      intro body member
      exact apart body (by simp [member]) source (by simp)
    obtain ⟨-, kept, unchanged⟩ := remembers.render here (s.renderWaits o.late)
    simp only [Server.renderAll, answer_render, served_cons]
    split_ifs with ok
    · rw [← List.append_assoc]
      apply ih (kept ok)
      simpa using apart
    · rw [unchanged ok]
      apply ih remembers
      apply apart.mono
      simp

end Remembers

theorem remembers_start (settings : Settings) (session : Session) (store : Option Store)
    (log : Logger) :
    (start settings session store log).Remembers settings.serving.cacheEntries.toNat [] :=
  ⟨rfl, by simp [Cache.keys, start, Cache.empty, latest]⟩

/-- The exact law of the cache. Requests to render are handled one after another, by a server that
was just started and has a cache of `n` entries, and no two programs have the same fingerprint. Then
a render comes from the cache if and only if its program was rendered with success before, and fewer
than `n` distinct others were since the latest time it was. A render that fails leaves the server as
it is, and the cache never has more than `n` entries. -/
theorem hits_are_recent_renders (settings : Settings) (session : Session) (store : Option Store)
    (log : Logger) (visits : List (Occasion × Text)) (o : Occasion) (source : Text)
    (apart : Apart (source :: visits.map Prod.snd)) :
    let n := settings.serving.cacheEntries
    let (s, answers) := (start settings session store log).renderAll visits
    let (after, response) := s.answer o (.post "/render" source)
    (response.cacheNote = utf8 "hit" ↔
        0 < n ∧ ∃ before since, served answers = before ++ source :: since ∧ source ∉ since ∧
          since.toFinset.card < n) ∧
      (response.status ≠ 200 → after = s) ∧ after.cache.entries.length ≤ n.toNat := by
  intro n
  have remembers := (remembers_start settings session store log).renderAll visits
    (apart.mono (by simp))
  have known : ∀ body ∈ served ((start settings session store log).renderAll visits).2,
      Fingerprint.of body = Fingerprint.of source → body = source := by
    intro body member
    exact apart body (List.mem_cons_of_mem source (mem_of_mem_served member)) source
      List.mem_cons_self
  rcases ran : (start settings session store log).renderAll visits with ⟨s, answers⟩
  rw [ran, List.nil_append] at remembers
  rw [ran] at known
  obtain ⟨hit, kept, unchanged⟩ := remembers.render known (s.renderWaits o.late)
  simp only [answer_render]
  refine ⟨?_, unchanged, ?_⟩
  · rw [hit, mem_take_latest]
    constructor
    · rintro ⟨before, since, split, last, few⟩
      exact ⟨by omega, before, since, split, last, by omega⟩
    · rintro ⟨-, before, since, split, last, few⟩
      exact ⟨before, since, split, last, by omega⟩
  · by_cases ok : (s.render (s.renderWaits o.late) source).2.response.status = 200
    · exact (kept ok).length_entries_le
    · rw [unchanged ok]
      exact remembers.length_entries_le

/-- With room for one drawing, the second of two programs is in the cache and the first no more. -/
theorem hits_are_recent_renders_evicted :
    let small : Settings :=
      { Settings.standard with serving := { Settings.standard.serving with cacheEntries := 1 } }
    let calm := Occasion.calm 0
    let ran := (start small (.fresh small .silent) none .silent).renderAll
      [(calm, utf8 "PU"), (calm, utf8 "PD")]
    let note (source : String) := (ran.1.answer calm (.post "/render" (utf8 source))).2.cacheNote
    Apart [utf8 "PU", utf8 "PD"] ∧ served ran.2 = [utf8 "PU", utf8 "PD"] ∧
      note "PD" = utf8 "hit" ∧ note "PU" ≠ utf8 "hit" := by
  intro small calm ran note
  have apart : Apart [utf8 "PU", utf8 "PD"] := by
    unfold Apart
    decide +kernel
  have up : ((Machine.fresh 512).run (utf8 "PU") Waits.never).error = none := by cbv
  have down : ((Machine.fresh 512).run (utf8 "PD") Waits.never).error = none := by cbv
  let s := start small (.fresh small .silent) none .silent
  have drawn : (s.drawn (s.renderWaits calm.late) (utf8 "PU")).1.error = none := up
  let next := (s.render (s.renderWaits calm.late) (utf8 "PU")).1
  have first : next = _ := congrArg Prod.fst (render_of_drawn (look_start ..) drawn)
  have second : (next.drawn (next.renderWaits calm.late) (utf8 "PD")).1.error = none := by
    rw [first]
    exact down
  have served : served ran.2 = [utf8 "PU", utf8 "PD"] := by
    simp only [ran, Server.renderAll, answer_render, served_cons]
    rw [if_pos (status_of_drawn drawn), if_pos (status_of_drawn second)]
    rfl
  have law := hits_are_recent_renders small (.fresh small .silent) none .silent
    [(calm, utf8 "PU"), (calm, utf8 "PD")] calm
  refine ⟨apart, served, ?_, ?_⟩
  · apply (law (utf8 "PD") (apart.mono (by decide))).1.mpr
    exact ⟨by decide, [utf8 "PU"], [], served, by decide, by decide⟩
  · intro hit
    obtain ⟨-, before, since, split, last, few⟩ :=
      (law (utf8 "PU") (apart.mono (by decide))).1.mp hit
    -- The only place of the first program is in front, with the second one behind it.
    have split : [utf8 "PU", utf8 "PD"] = before ++ utf8 "PU" :: since := served.symm.trans split
    cases before with
    | nil =>
      obtain rfl : since = [utf8 "PD"] := (List.cons.inj split).2.symm
      exact absurd few (by decide)
    | cons body before =>
      have again : utf8 "PU" ∈ [utf8 "PD"] := by
        rw [(List.cons.inj split).2]
        simp
      exact absurd again (by decide)

end Server

end TurtleLogo
