import Stencil.Proofs.Cache.History

/-!
# Caches of different sizes

Of two caches that are asked the same, the one with more room remembers whatever the other one
remembers, and in the same order: what the smaller one remembers are the most recent entries of the
larger one (`PatternCache.Within`). Every request keeps this (`PatternCache.Within.serve`), also
where one cache remembers a pattern that the other one has dropped, and so does every run of
requests (`PatternCache.Within.serveAll`). `serveAll_inclusion` says what follows: more room never
means fewer hits.
-/
namespace Stencil

/-- A limit leaves room for whatever another one leaves room for: it is no lower, or zero and so no
limit at all. -/
def LeavesRoom (small large : Int) : Prop := 0 < small ∧ small ≤ large ∨ large = 0

/-- The limit of a new cache is one of its own or else that of the settings. -/
def Settings.Limits (settings : Settings) (limit? : Option Int) (limit : Int) : Prop :=
  limit? = some limit ∨ limit? = none ∧ settings.cacheSize = .int limit

namespace PatternCache

/-- A cache remembers the most recent entries of another one with more room, and has had no more
hits. -/
structure Within (smaller larger : PatternCache) : Prop where
  /-- Both read templates alike. -/
  read : smaller.settings = larger.settings
  /-- The other one has more room. -/
  room : LeavesRoom smaller.limit larger.limit
  /-- What is remembered are the most recent entries of the other one. -/
  recent : smaller.entries <:+ larger.entries
  /-- Every pattern that is remembered is that of its template. -/
  compiled : ∀ entry ∈ larger.entries, larger.settings.compile entry.1 = .ok entry.2
  /-- There have been no more hits than those of the other one. -/
  hits_le : smaller.hits ≤ larger.hits

section Entries

variable {small large : Int} {template : Text} {entry : Text × Pattern}
  {recent entries : List (Text × Pattern)}

/-- What is left when the oldest entry may be dropped are the most recent entries. -/
theorem evict_suffix (limit : Int) (entries : List (Text × Pattern)) :
    evict limit entries <:+ entries := by
  rw [evict]
  split
  · exact List.drop_suffix 1 entries
  · exact List.suffix_rfl

/-- The most recent entries stay so when a cache with more room may drop its oldest one: it drops
one of them only where the smaller cache does, too. -/
theorem evict_suffix_evict (room : LeavesRoom small large) (suffix : recent <:+ entries) :
    evict small recent <:+ evict large entries := by
  by_cases exceeded : large ≠ 0 ∧ large < (entries.length : Int)
  case neg =>
    have kept : evict large entries = entries := by
      rw [evict, if_neg]
      simpa using exceeded
    rw [kept]
    exact (evict_suffix small recent).trans suffix
  case pos =>
    have dropped : evict large entries = entries.drop 1 := by
      rw [evict, if_pos]
      simpa using exceeded
    rw [dropped]
    obtain ⟨older, rfl⟩ := suffix
    cases older with
    | nil =>
      -- Both caches remember the same, and the smaller one exceeds its limit all the more.
      have exceeded' : small ≠ 0 ∧ small < (recent.length : Int) := by
        rw [LeavesRoom] at room
        rw [List.nil_append] at exceeded
        omega
      rw [evict, if_pos (by simpa using exceeded')]
      exact List.suffix_rfl
    | cons oldest older =>
      exact (evict_suffix small recent).trans (List.suffix_append older recent)

/-- The most recent entries, and one more, are the most recent ones of all entries and that one. -/
theorem suffix_snoc (suffix : recent <:+ entries) : recent ++ [entry] <:+ entries ++ [entry] := by
  obtain ⟨older, rfl⟩ := suffix
  exact ⟨older, (List.append_assoc older recent [entry]).symm⟩

/-- Entries without a template are not changed when it is taken out of them. -/
theorem without_of_lookup (missing : entries.lookup template = none) :
    without template entries = entries :=
  List.filter_eq_self.mpr fun entry member => by
    have other := List.lookup_eq_none_iff.mp missing entry member
    exact bne_iff_ne.mpr fun same => absurd same.symm (bne_iff_ne.mp other)

end Entries

/-- A cache that remembers what it has compiled answers with what compiling the template gives. -/
theorem get_fst {cache : PatternCache} (template : Text)
    (compiled : ∀ entry ∈ cache.entries, cache.settings.compile entry.1 = .ok entry.2) :
    (cache.get template).1 = cache.settings.compile template := by
  cases lookup : cache.entries.lookup template with
  | some pattern => rw [get_of_lookup lookup, compiled _ (mem_of_lookup lookup)]
  | none =>
    cases answer : cache.settings.compile template with
    | ok pattern => rw [get_of_compile lookup answer]
    | error failure => rw [get_of_refused lookup answer]

namespace Within

variable {smaller larger : PatternCache} {template : Text} {pattern : Pattern} {failure : Failure}

/-- What the larger cache does not remember, the smaller one does not remember either. -/
theorem lookup_eq_none (within : Within smaller larger)
    (missing : larger.entries.lookup template = none) :
    smaller.entries.lookup template = none := by
  rw [List.lookup_eq_none_iff] at missing ⊢
  exact fun entry member => missing entry (within.recent.subset member)

/-- A pattern that the smaller cache remembers is remembered by the larger one, too. -/
theorem lookup_eq_some (within : Within smaller larger)
    (found : smaller.entries.lookup template = some pattern) :
    larger.entries.lookup template = some pattern := by
  have compiled := within.compiled _ (within.recent.subset (mem_of_lookup found))
  cases lookup : larger.entries.lookup template with
  | none =>
    rw [within.lookup_eq_none lookup] at found
    contradiction
  | some other =>
    have compiled' := within.compiled _ (mem_of_lookup lookup)
    rw [compiled] at compiled'
    exact congrArg some (Except.ok.inj compiled').symm

/-- A pattern that both caches remember becomes the most recent one of both. -/
theorem get_hit (within : Within smaller larger)
    (found : smaller.entries.lookup template = some pattern) :
    Within (smaller.get template).2 (larger.get template).2 := by
  have found' := within.lookup_eq_some found
  have compiled := within.compiled _ (mem_of_lookup found')
  rw [get_of_lookup found, get_of_lookup found']
  exact {
    read := within.read
    room := within.room
    recent := suffix_snoc (within.recent.filter _)
    compiled := compiled_used within.compiled compiled
    hits_le := Nat.succ_le_succ within.hits_le }

/-- A pattern that only the larger cache remembers becomes the most recent one of both; what the
smaller cache may drop for it stays in the larger one. -/
theorem get_regained (within : Within smaller larger)
    (missing : smaller.entries.lookup template = none)
    (found : larger.entries.lookup template = some pattern) :
    Within (smaller.get template).2 (larger.get template).2 := by
  have compiled := within.compiled _ (mem_of_lookup found)
  rw [get_of_compile missing (within.read ▸ compiled), get_of_lookup found]
  have recent : smaller.entries <:+ without template larger.entries := by
    rw [← without_of_lookup missing]
    exact within.recent.filter _
  exact {
    read := within.read
    room := within.room
    recent := (evict_suffix _ _).trans (suffix_snoc recent)
    compiled := compiled_used within.compiled compiled
    hits_le := Nat.le_succ_of_le within.hits_le }

/-- A pattern that neither cache remembers is added to both. -/
theorem get_miss (within : Within smaller larger)
    (missing : larger.entries.lookup template = none)
    (compiled : larger.settings.compile template = .ok pattern) :
    Within (smaller.get template).2 (larger.get template).2 := by
  rw [get_of_compile (within.lookup_eq_none missing) (within.read ▸ compiled),
    get_of_compile missing compiled]
  exact {
    read := within.read
    room := within.room
    recent := evict_suffix_evict within.room (suffix_snoc within.recent)
    compiled := fun entry member =>
      compiled_snoc within.compiled compiled entry (mem_of_mem_evict member)
    hits_le := within.hits_le }

/-- A template that is no pattern changes neither cache. -/
theorem get_refused (within : Within smaller larger)
    (missing : larger.entries.lookup template = none)
    (refused : larger.settings.compile template = .error failure) :
    Within (smaller.get template).2 (larger.get template).2 := by
  rw [get_of_refused (within.lookup_eq_none missing) (within.read ▸ refused),
    get_of_refused missing refused]
  exact { within with }

/-- Two caches that are cleared remember nothing. -/
theorem clear (read : smaller.settings = larger.settings)
    (room : LeavesRoom smaller.limit larger.limit) : Within smaller.clear larger.clear where
  read := read
  room := room
  recent := List.suffix_rfl
  compiled := fun _ member => absurd member List.not_mem_nil
  hits_le := Nat.le_refl 0

/-- A request to both caches keeps one within the other. -/
theorem serve (within : Within smaller larger) (request : CacheRequest) :
    Within (smaller.serve request) (larger.serve request) := by
  cases request with
  | get template =>
    cases held : smaller.entries.lookup template with
    | some pattern => exact within.get_hit held
    | none =>
      cases held' : larger.entries.lookup template with
      | some pattern => exact within.get_regained held held'
      | none =>
        cases compiled : larger.settings.compile template with
        | ok pattern => exact within.get_miss held' compiled
        | error failure => exact within.get_refused held' compiled
  | holds template => exact within
  | size => exact within
  | clear => exact .clear within.read within.room
  | leave => exact .clear within.read within.room

/-- Requests to both caches, one after another, keep one within the other. -/
theorem serveAll (within : Within smaller larger) (requests : List CacheRequest) :
    Within (smaller.serveAll requests) (larger.serveAll requests) := by
  induction requests generalizing smaller larger with
  | nil => exact within
  | cons request requests ih => exact ih (within.serve request)

/-- Both caches answer with what compiling the template gives. -/
theorem get_fst_eq (within : Within smaller larger) (template : Text) :
    (smaller.get template).1 = (larger.get template).1 := by
  rw [get_fst template within.compiled, ← within.read]
  refine get_fst template fun entry member => ?_
  rw [within.read]
  exact within.compiled entry (within.recent.subset member)

end Within

/-- A new cache has the limit that it is given. -/
theorem new_limit {settings : Settings} {limit? : Option Int} {limit : Int}
    (limits : settings.Limits limit? limit) : (new settings limit?).limit = limit := by
  rcases limits with rfl | ⟨rfl, size⟩
  · rfl
  · rw [new, size]
    rfl

end PatternCache

/-- A larger cache never does worse. After every run of requests to a cache and to one with more
room, the templates that the smaller one remembers, the one asked for longest ago first, are the
last of those that the larger one remembers, so that it remembers none that the larger one does not;
the smaller one has had no more hits; and asked for one more pattern, both answer alike, with the
pattern or with the failure. -/
theorem serveAll_inclusion {settings : Settings} {small? large? : Option Int} {small large : Int}
    (smaller_limits : settings.Limits small? small) (larger_limits : settings.Limits large? large)
    (room : LeavesRoom small large) (requests : List CacheRequest)
    {smaller larger : PatternCache}
    (smaller_served : (PatternCache.new settings small?).serveAll requests = smaller)
    (larger_served : (PatternCache.new settings large?).serveAll requests = larger) :
    smaller.templates <:+ larger.templates ∧
      (∀ template, smaller.holds template = true → larger.holds template = true) ∧
      smaller.hits ≤ larger.hits ∧
      ∀ template, (smaller.get template).1 = (larger.get template).1 := by
  have fresh : PatternCache.Within (.new settings small?) (.new settings large?) := by
    refine @PatternCache.Within.clear (.new settings small?) (.new settings large?) rfl ?_
    rwa [PatternCache.new_limit smaller_limits, PatternCache.new_limit larger_limits]
  have within := fresh.serveAll requests
  rw [smaller_served, larger_served] at within
  have recent : smaller.templates <:+ larger.templates := within.recent.map _
  refine ⟨recent, fun template held => ?_, within.hits_le, within.get_fst_eq⟩
  exact List.contains_iff_mem.mpr (recent.subset (List.contains_iff_mem.mp held))

/-- Of two caches of one pattern and of two, the larger one still remembers the pattern that the
smaller one has dropped, so that asking for it again is a hit in the larger one only; the smaller
one drops another pattern for it, and what it remembers is again the end of what the larger one
remembers. A template that is no pattern is refused by both. -/
theorem serveAll_inclusion_regained :
    ∃ smaller larger,
      (PatternCache.new Settings.initial (some 1)).serveAll
        [.get "(a)", .get "(b)", .get "(a)(b:)", .get "(a)"] = smaller ∧
      (PatternCache.new Settings.initial (some 2)).serveAll
        [.get "(a)", .get "(b)", .get "(a)(b:)", .get "(a)"] = larger ∧
      smaller.templates = ["(a)"] ∧ larger.templates = ["(b)", "(a)"] ∧
      smaller.templates <:+ larger.templates ∧ smaller.hits = 0 ∧ larger.hits = 1 ∧
      (smaller.get "(b)").1 = (larger.get "(b)").1 := by
  obtain ⟨recent, -, -, answers⟩ :=
    @serveAll_inclusion Settings.initial (some 1) (some 2) 1 2 (.inl rfl) (.inl rfl)
      (.inl (by decide)) [.get "(a)", .get "(b)", .get "(a)(b:)", .get "(a)"] _ _ rfl rfl
  exact ⟨_, _, rfl, rfl, by decide, by decide, recent, by decide, by decide, answers "(b)"⟩

end Stencil
