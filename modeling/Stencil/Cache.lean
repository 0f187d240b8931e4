import Stencil.Settings.Basic

/-!
# The cache of compiled patterns

A cache remembers the patterns that were asked for last. Asking for a pattern again makes it the
most recent one; when there are more patterns than the limit allows, the one asked for longest ago
is dropped. Templates that are no patterns are not remembered.
-/
namespace Stencil

/-- A cache of compiled patterns. -/
structure PatternCache where
  /-- How templates are read. -/
  settings : Settings
  /-- The most patterns that are remembered; zero sets no limit. -/
  limit : Int
  /-- The templates with their patterns, the one asked for longest ago first. -/
  entries : List (Text × Pattern)
  /-- How often a pattern that was asked for was remembered, since the last clearing. -/
  hits : Nat
  /-- How often a pattern that was asked for was not remembered, since the last clearing. -/
  misses : Nat

namespace PatternCache

/-- A cache that remembers nothing yet; without a limit of its own it has that of the settings. -/
def new (settings : Settings) (limit? : Option Int) : PatternCache :=
  let usual := match settings.cacheSize with
    | .int number => number
    | .flag true => 1
    | _ => 0
  ⟨settings, limit?.getD usual, [], 0, 0⟩

/-- The templates that are remembered, the one asked for longest ago first. -/
def templates (cache : PatternCache) : List Text := cache.entries.map Prod.fst

/-- Whether a template is remembered. -/
def holds (cache : PatternCache) (template : Text) : Bool := cache.templates.contains template

/-- How many templates are remembered. -/
def size (cache : PatternCache) : Nat := cache.entries.length

/-- The entries without that of a template. -/
def without (template : Text) (entries : List (Text × Pattern)) : List (Text × Pattern) :=
  entries.filter fun entry => entry.1 != template

/-- The entries with the oldest one dropped if there are more than a limit other than zero. -/
def evict (limit : Int) (entries : List (Text × Pattern)) : List (Text × Pattern) :=
  if limit ≠ 0 && limit < (entries.length : Int) then entries.drop 1 else entries

/-- The pattern of a template, remembered or compiled, and the cache that remembers it as the most
recent one. -/
def get (cache : PatternCache) (template : Text) : Outcome Pattern × PatternCache :=
  match cache.entries.lookup template with
  | some pattern =>
    (.ok pattern,
      { cache with
        entries := without template cache.entries ++ [(template, pattern)]
        hits := cache.hits + 1 })
  | none =>
    let missed := { cache with misses := cache.misses + 1 }
    match cache.settings.compile template with
    | .error failure => (.error failure, missed)
    | .ok pattern =>
      (.ok pattern,
        { missed with entries := evict cache.limit (cache.entries ++ [(template, pattern)]) })

/-- The cache with nothing remembered or counted. -/
def clear (cache : PatternCache) : PatternCache :=
  { cache with entries := [], hits := 0, misses := 0 }

/-- Ask for patterns one after another, up to the first failure. -/
def getAll (cache : PatternCache) : List Text → Outcome Unit × PatternCache
  | [] => (.ok (), cache)
  | template :: rest =>
    match cache.get template with
    | (.ok _, cache) => cache.getAll rest
    | (.error failure, cache) => (.error failure, cache)

/-- Ask for patterns and clear the cache afterwards; the result is how many were remembered before
that. -/
def lend (cache : PatternCache) (templates : List Text) : Outcome Nat × PatternCache :=
  let (outcome, used) := cache.getAll templates
  (outcome.map fun _ => used.size, used.clear)

end PatternCache
end Stencil
