import Stencil.Cache
import Stencil.Proofs.Cache.Recency

/-!
# The history of a cache

What a cache remembers follows from the templates that were asked for since it was cleared last: the
newest of those that are patterns (`PatternCache.Tracks`). Every request keeps this
(`PatternCache.Tracks.serve`), and so does every run of requests (`PatternCache.Tracks.serveAll`);
`serveAll_recency` says what follows for the templates that are remembered, for the counts and for
the answers.
-/
namespace Stencil

/-- What is asked of a cache. -/
inductive CacheRequest
  /-- The pattern of a template. -/
  | get (template : Text)
  /-- Whether a template is remembered. -/
  | holds (template : Text)
  /-- How many templates are remembered. -/
  | size
  /-- To forget everything. -/
  | clear
  /-- To be given back by a borrower. -/
  | leave

/-- The templates asked for since the last clearing, after one more request. -/
def CacheRequest.record (asked : List Text) : CacheRequest → List Text
  | get template => asked ++ [template]
  | holds _ | size => asked
  | clear | leave => []

/-- The templates asked for since the last clearing, in the order of the requests. -/
def askedTemplates (requests : List CacheRequest) : List Text :=
  requests.foldl CacheRequest.record []

/-- The templates among some that are patterns under the settings. -/
def Settings.granted (settings : Settings) (asked : List Text) : List Text :=
  asked.filter fun template => (settings.compile template).isOk

namespace PatternCache

/-- The cache after a request. -/
def serve (cache : PatternCache) : CacheRequest → PatternCache
  | .get template => (cache.get template).2
  | .holds _ | .size => cache
  | .clear | .leave => cache.clear

/-- The cache after some requests, one after another. -/
def serveAll (cache : PatternCache) (requests : List CacheRequest) : PatternCache :=
  requests.foldl serve cache

/-- A cache remembers the newest patterns of the templates asked for, and has counted them. -/
structure Tracks (settings : Settings) (limit : Int) (asked : List Text) (cache : PatternCache) :
    Prop where
  /-- Templates are read under the settings. -/
  read : cache.settings = settings
  /-- The limit is that of the cache. -/
  sized : cache.limit = limit
  /-- Every pattern that is remembered is that of its template. -/
  compiled : ∀ entry ∈ cache.entries, settings.compile entry.1 = .ok entry.2
  /-- The newest templates that are patterns are remembered. -/
  recent : cache.templates = newest limit (settings.granted asked).dedup
  /-- Every template asked for is counted. -/
  counted : cache.hits + cache.misses = asked.length

section Entries

variable {template : Text} {pattern : Pattern} {entries : List (Text × Pattern)}

/-- The templates of the entries after one of them is asked for again. -/
theorem map_fst_without :
    (without template entries ++ [(template, pattern)]).map Prod.fst =
      used template (entries.map Prod.fst) := by
  have others : ∀ entry ∈ entries, (entry.1 != template) = decide (entry.1 ≠ template) :=
    fun _ _ => Bool.eq_iff_iff.mpr (bne_iff_ne.trans decide_eq_true_iff.symm)
  rw [List.map_append, used, List.filter_map, without, List.filter_congr others]
  rfl

/-- The templates of the entries after the oldest one may be dropped. -/
theorem map_fst_evict (limit : Int) :
    (evict limit entries).map Prod.fst = trimmed limit (entries.map Prod.fst) := by
  simp only [evict, trimmed, List.length_map, Bool.and_eq_true, decide_eq_true_eq]
  split
  · exact List.map_drop
  · rfl

/-- No entry is added where the oldest one may be dropped. -/
theorem mem_of_mem_evict {limit : Int} {entry : Text × Pattern}
    (member : entry ∈ evict limit entries) : entry ∈ entries := by
  rw [evict] at member
  split at member
  · exact List.mem_of_mem_drop member
  · exact member

/-- A template with a pattern is one of the entries. -/
theorem mem_of_lookup (found : entries.lookup template = some pattern) :
    (template, pattern) ∈ entries := by
  obtain ⟨before, after, rfl, -⟩ := List.lookup_eq_some_iff.mp found
  exact List.mem_append_right before List.mem_cons_self

/-- A template without a pattern is not among those of the entries. -/
theorem not_mem_of_lookup (missing : entries.lookup template = none) :
    template ∉ entries.map Prod.fst := by
  intro among
  obtain ⟨entry, member, rfl⟩ := List.mem_map.mp among
  have other := List.lookup_eq_none_iff.mp missing entry member
  exact bne_iff_ne.mp other rfl

/-- Patterns that are compiled, and one more, are compiled. -/
theorem compiled_snoc {settings : Settings}
    (remembered : ∀ entry ∈ entries, settings.compile entry.1 = .ok entry.2)
    (compiled : settings.compile template = .ok pattern) :
    ∀ entry ∈ entries ++ [(template, pattern)], settings.compile entry.1 = .ok entry.2 :=
  List.forall_mem_append.mpr ⟨remembered, List.forall_mem_singleton.mpr compiled⟩

/-- Patterns that are compiled stay so when one of them is asked for again. -/
theorem compiled_used {settings : Settings}
    (remembered : ∀ entry ∈ entries, settings.compile entry.1 = .ok entry.2)
    (compiled : settings.compile template = .ok pattern) :
    ∀ entry ∈ without template entries ++ [(template, pattern)],
      settings.compile entry.1 = .ok entry.2 :=
  compiled_snoc (fun entry member => remembered entry (List.mem_of_mem_filter member)) compiled

end Entries

section Answers

variable {cache : PatternCache} {template : Text} {pattern : Pattern} {failure : Failure}

/-- A pattern that is remembered is given back, and is now the most recent one. -/
theorem get_of_lookup (found : cache.entries.lookup template = some pattern) :
    cache.get template = (.ok pattern,
      { cache with
        entries := without template cache.entries ++ [(template, pattern)]
        hits := cache.hits + 1 }) := by
  rw [get, found]

/-- A pattern that is not remembered is compiled, and is now the most recent one. -/
theorem get_of_compile (missing : cache.entries.lookup template = none)
    (compiled : cache.settings.compile template = .ok pattern) :
    cache.get template = (.ok pattern,
      { cache with
        entries := evict cache.limit (cache.entries ++ [(template, pattern)])
        misses := cache.misses + 1 }) := by
  simp only [get, missing, compiled]

/-- A template that is no pattern is only counted. -/
theorem get_of_refused (missing : cache.entries.lookup template = none)
    (refused : cache.settings.compile template = .error failure) :
    cache.get template = (.error failure, { cache with misses := cache.misses + 1 }) := by
  simp only [get, missing, refused]

end Answers

section Steps

variable {settings : Settings} {limit : Int} {asked : List Text} {cache : PatternCache}
  {template : Text} {pattern : Pattern} {failure : Failure}

/-- A template that is a pattern is granted last. -/
theorem granted_of_compile (compiled : settings.compile template = .ok pattern) :
    settings.granted (asked ++ [template]) = settings.granted asked ++ [template] := by
  have granted : (settings.compile template).isOk = true := by rw [compiled]; rfl
  rw [Settings.granted, List.filter_append]
  exact congrArg _ (List.filter_cons_of_pos granted)

/-- A template that is no pattern is not granted. -/
theorem granted_of_refused (refused : settings.compile template = .error failure) :
    settings.granted (asked ++ [template]) = settings.granted asked := by
  have denied : ¬ (settings.compile template).isOk = true := by rw [refused]; exact nofun
  rw [Settings.granted, List.filter_append]
  have nothing : [template].filter (fun template => (settings.compile template).isOk) = [] :=
    List.filter_cons_of_neg denied
  rw [nothing, List.append_nil]
  rfl

/-- A cache with nothing remembered or counted has been asked for nothing. -/
theorem tracks_cleared (read : cache.settings = settings) (sized : cache.limit = limit) :
    Tracks settings limit [] cache.clear where
  read := read
  sized := sized
  compiled := fun _ member => absurd member List.not_mem_nil
  recent := (newest_nil limit).symm
  counted := rfl

/-- Asking for a pattern that is remembered makes it the most recent one. -/
theorem Tracks.get_hit (tracks : Tracks settings limit asked cache)
    (found : cache.entries.lookup template = some pattern) :
    Tracks settings limit (asked ++ [template]) (cache.get template).2 := by
  have member := mem_of_lookup found
  have compiled := tracks.compiled _ member
  have held : template ∈ newest limit (settings.granted asked).dedup :=
    tracks.recent ▸ List.mem_map_of_mem member
  rw [get_of_lookup found]
  refine ⟨tracks.read, tracks.sized, compiled_used tracks.compiled compiled, ?_, ?_⟩
  · calc (without template cache.entries ++ [(template, pattern)]).map Prod.fst
        = used template cache.templates := map_fst_without
      _ = used template (newest limit (settings.granted asked).dedup) := by rw [tracks.recent]
      _ = newest limit (used template (settings.granted asked).dedup) :=
          (newest_used_of_mem (List.nodup_dedup _) held).symm
      _ = newest limit (settings.granted (asked ++ [template])).dedup := by
          rw [granted_of_compile compiled, dedup_snoc]
  · rw [List.length_append, List.length_singleton, ← tracks.counted, Nat.add_right_comm]

/-- Asking for a pattern that is not remembered adds it, in place of the oldest one if the limit is
reached. -/
theorem Tracks.get_miss (tracks : Tracks settings limit asked cache) (bounded : 0 ≤ limit)
    (missing : cache.entries.lookup template = none)
    (compiled : settings.compile template = .ok pattern) :
    Tracks settings limit (asked ++ [template]) (cache.get template).2 := by
  have missed : template ∉ newest limit (settings.granted asked).dedup :=
    tracks.recent ▸ not_mem_of_lookup missing
  rw [get_of_compile missing (tracks.read ▸ compiled)]
  refine ⟨tracks.read, tracks.sized, ?_, ?_, ?_⟩
  · exact fun entry member => compiled_snoc tracks.compiled compiled entry (mem_of_mem_evict member)
  · calc (evict cache.limit (cache.entries ++ [(template, pattern)])).map Prod.fst
        = trimmed limit (cache.templates ++ [template]) := by
          rw [map_fst_evict, tracks.sized, List.map_append]
          rfl
      _ = trimmed limit (newest limit (settings.granted asked).dedup ++ [template]) := by
          rw [tracks.recent]
      _ = newest limit (used template (settings.granted asked).dedup) :=
          (newest_used_of_not_mem bounded missed).symm
      _ = newest limit (settings.granted (asked ++ [template])).dedup := by
          rw [granted_of_compile compiled, dedup_snoc]
  · rw [List.length_append, List.length_singleton, ← tracks.counted, Nat.add_assoc]

/-- Asking for a template that is no pattern is only counted. -/
theorem Tracks.get_refused (tracks : Tracks settings limit asked cache)
    (missing : cache.entries.lookup template = none)
    (refused : settings.compile template = .error failure) :
    Tracks settings limit (asked ++ [template]) (cache.get template).2 := by
  rw [get_of_refused missing (tracks.read ▸ refused)]
  refine ⟨tracks.read, tracks.sized, tracks.compiled, ?_, ?_⟩
  · rw [granted_of_refused refused]
    exact tracks.recent
  · rw [List.length_append, List.length_singleton, ← tracks.counted, Nat.add_assoc]

/-- A request keeps track. -/
theorem Tracks.serve (tracks : Tracks settings limit asked cache) (bounded : 0 ≤ limit)
    (request : CacheRequest) :
    Tracks settings limit (request.record asked) (cache.serve request) := by
  cases request with
  | get template =>
    cases lookup : cache.entries.lookup template with
    | some pattern => exact tracks.get_hit lookup
    | none =>
      cases compiled : settings.compile template with
      | ok pattern => exact tracks.get_miss bounded lookup compiled
      | error failure => exact tracks.get_refused lookup compiled
  | holds template => exact tracks
  | size => exact tracks
  | clear => exact tracks_cleared tracks.read tracks.sized
  | leave => exact tracks_cleared tracks.read tracks.sized

/-- Requests one after another keep track. -/
theorem Tracks.serveAll (tracks : Tracks settings limit asked cache) (bounded : 0 ≤ limit)
    (requests : List CacheRequest) :
    Tracks settings limit (requests.foldl CacheRequest.record asked) (cache.serveAll requests) := by
  induction requests generalizing asked cache with
  | nil => exact tracks
  | cons request requests ih => exact ih (tracks.serve bounded request)

/-- A new cache has been asked for nothing. -/
theorem tracks_new (settings : Settings) (limit? : Option Int) :
    Tracks settings (new settings limit?).limit [] (new settings limit?) :=
  @tracks_cleared settings _ (new settings limit?) rfl rfl

/-- How a cache answers when a pattern is asked for: with the pattern or the failure of compiling
the template, counting whether the template is remembered. -/
structure Answers (settings : Settings) (template : Text) (cache : PatternCache) : Prop where
  /-- What is given back does not depend on what is remembered. -/
  same : (cache.get template).1 = settings.compile template
  /-- A template that is remembered is counted as such. -/
  hit : template ∈ cache.templates →
    (cache.get template).2.hits = cache.hits + 1 ∧ (cache.get template).2.misses = cache.misses
  /-- A template that is not remembered is counted as such. -/
  missed : template ∉ cache.templates →
    (cache.get template).2.hits = cache.hits ∧ (cache.get template).2.misses = cache.misses + 1
  /-- A template that is no pattern is not remembered, and is only counted. -/
  refused : ∀ failure, settings.compile template = .error failure →
    template ∉ cache.templates ∧ (cache.get template).2 = { cache with misses := cache.misses + 1 }

/-- A template that is remembered is answered with its pattern. -/
theorem Tracks.answers_hit (tracks : Tracks settings limit asked cache)
    (found : cache.entries.lookup template = some pattern) : Answers settings template cache := by
  have member := mem_of_lookup found
  have compiled : settings.compile template = .ok pattern := tracks.compiled _ member
  have held : template ∈ cache.templates := List.mem_map_of_mem member
  have answer := get_of_lookup found
  constructor
  case same => rw [answer, compiled]
  case hit => exact fun _ => by rw [answer]; exact ⟨rfl, rfl⟩
  case missed => exact fun missing => absurd held missing
  case refused =>
    intro failure refused
    rw [compiled] at refused
    contradiction

/-- A template that is a pattern but not remembered is answered with its pattern. -/
theorem Tracks.answers_miss (tracks : Tracks settings limit asked cache)
    (missing : cache.entries.lookup template = none)
    (compiled : settings.compile template = .ok pattern) : Answers settings template cache := by
  have answer := get_of_compile missing (tracks.read ▸ compiled)
  constructor
  case same => rw [answer, compiled]
  case hit => exact fun held => absurd held (not_mem_of_lookup missing)
  case missed => exact fun _ => by rw [answer]; exact ⟨rfl, rfl⟩
  case refused =>
    intro failure refused
    rw [compiled] at refused
    contradiction

/-- A template that is no pattern is answered with the failure of compiling it. -/
theorem Tracks.answers_refused (tracks : Tracks settings limit asked cache)
    (missing : cache.entries.lookup template = none)
    (refused : settings.compile template = .error failure) : Answers settings template cache := by
  have answer := get_of_refused missing (tracks.read ▸ refused)
  constructor
  case same => rw [answer, refused]
  case hit => exact fun held => absurd held (not_mem_of_lookup missing)
  case missed => exact fun _ => by rw [answer]; exact ⟨rfl, rfl⟩
  case refused => exact fun _ _ => ⟨not_mem_of_lookup missing, by rw [answer]⟩

/-- A cache that keeps track answers with what it has compiled, or compiles. -/
theorem Tracks.answers (tracks : Tracks settings limit asked cache) (template : Text) :
    Answers settings template cache := by
  cases lookup : cache.entries.lookup template with
  | some pattern => exact tracks.answers_hit lookup
  | none =>
    cases compiled : settings.compile template with
    | ok pattern => exact tracks.answers_miss lookup compiled
    | error failure => exact tracks.answers_refused lookup compiled

end Steps

/-- Clearing forgets that a pattern was asked for. -/
theorem clear_get (cache : PatternCache) (template : Text) :
    (cache.get template).2.clear = cache.clear := by
  rw [get]
  split
  · rfl
  · dsimp only
    split <;> rfl

/-- Clearing forgets that patterns were asked for. -/
theorem clear_getAll (cache : PatternCache) (templates : List Text) :
    (cache.getAll templates).2.clear = cache.clear := by
  induction templates generalizing cache with
  | nil => rfl
  | cons template rest ih =>
    have forgotten := clear_get cache template
    rw [getAll]
    split
    · next pattern after answer =>
      rw [ih, ← forgotten, answer]
    · next failure after answer =>
      rw [← forgotten, answer]

end PatternCache

/-- A cache is an ideal one that knows its history. After every run of requests the templates that
it remembers, the one asked for longest ago first, are those that were asked for and are patterns,
each at its last place, up to the limit; and every template asked for since the last clearing is
counted.
Asked for one more pattern, it gives what compiling the template gives, and counts whether it
remembers the template. Given back by a borrower, it is cleared, whatever the borrower has asked. -/
theorem serveAll_recency {settings : Settings} {limit? : Option Int} {limit : Nat}
    (sized : limit? = some (limit : Int) ∨ limit? = none ∧ settings.cacheSize = .int limit)
    (requests : List CacheRequest) {cache : PatternCache}
    (served : (PatternCache.new settings limit?).serveAll requests = cache) :
    cache.templates = newest limit (settings.granted (askedTemplates requests)).dedup ∧
      cache.hits + cache.misses = (askedTemplates requests).length ∧
      cache.size = cache.templates.length ∧
      (∀ template, cache.holds template = true ↔ template ∈ cache.templates) ∧
      (∀ template, PatternCache.Answers settings template cache) ∧
      ∀ templates, (cache.lend templates).2 = cache.serve .leave := by
  have fresh : (PatternCache.new settings limit?).limit = limit := by
    rcases sized with rfl | ⟨rfl, size⟩
    · rfl
    · rw [PatternCache.new, size]
      rfl
  have tracks := (PatternCache.tracks_new settings limit?).serveAll
    (fresh ▸ Int.natCast_nonneg limit) requests
  rw [fresh, served] at tracks
  refine ⟨tracks.recent, tracks.counted, ?size, ?holds, tracks.answers, ?lend⟩
  case size => exact (List.length_map _).symm
  case holds => exact fun template => List.contains_iff_mem
  case lend => exact fun templates => cache.clear_getAll templates

/-- A cache of two patterns, after one of them was asked for again, a template was refused and a
third pattern was added: the one asked for longest ago is gone, and asking for it is counted as a
miss. -/
theorem serveAll_recency_third_pattern :
    ∃ cache, (PatternCache.new Settings.initial (some 2)).serveAll
        [.get "(a)", .get "(b)", .get "(a)", .get "(a)(b:)", .get "(c)", .holds "(b)"] = cache ∧
      cache.templates = ["(a)", "(c)"] ∧ cache.hits + cache.misses = 5 ∧
      (cache.get "(b)").2.hits = cache.hits ∧ (cache.get "(b)").2.misses = cache.misses + 1 := by
  obtain ⟨recent, counted, -, -, answers, -⟩ :=
    @serveAll_recency Settings.initial (some 2) 2 (.inl rfl)
      [.get "(a)", .get "(b)", .get "(a)", .get "(a)(b:)", .get "(c)", .holds "(b)"] _ rfl
  have newest_two := recent.trans (show _ = [("(a)" : Text), "(c)"] by decide)
  exact ⟨_, rfl, newest_two, counted, (answers "(b)").missed (by rw [newest_two]; decide)⟩

end Stencil
