import BuildBench.Run.Checkout
import BuildBench.Cache.Store

/-!
# Preparation

Before anything is built, the source is checked out and the cache is restored. The cache key is
computed also when there is no cache, so that it can be reported.
-/

namespace BuildBench

open BuildBench.Action

/-- What preparation hands to the later stages. -/
structure Prepared where
  workdir : PathName
  revision : Option String
  cacheKey : String
  cacheHit : Bool
  cachePaths : List PathName

/-- The cache key of a working directory. -/
def workdirKey (s : Settings) : Action String := do
  let cache ← ofResult s.cache.given
  let digest ← Cache.hashFiles s.workdir cache.lockFiles
  if digest.isEmpty then
    log .warning "prepare"
      ("No files match " ++ cache.lockFiles.display ++ "; cache key has an empty hash")
  ofResult (Cache.key (Cache.systemLabel (← get).systemName) cache.keyStart digest)

/-- Makes the folders above the one that a repository is cloned into. -/
def makeRoom (repo : Value) (folder : PathName) : Action Unit := do
  if repo.isPresent then Disk.makeFolders folder.parent

/-- Restores some paths from the cache. Without a cache nothing is restored. -/
def restoreCache (store : Option CacheStore) (key : String) (paths : List PathName) :
    Action Bool :=
  match store with
  | some store => store.restore key paths
  | none => pure false

/-- Checks out the source and restores the cache. -/
def prepare (s : Settings) (store : Option CacheStore) : Action Prepared := do
  let source ← ofResult s.checkout.given
  makeRoom source.repo s.workdir
  let revision ← Checkout.checkOut source.repo s.workdir source.ref source.depth
  let key ← workdirKey s
  let homes ← Disk.homes
  let cache ← ofResult s.cache.given
  let paths ← ofResult (cache.paths.mapM (Cache.place homes · s.workdir))
  log .info "prepare" ("Cache key: " ++ key)
  let hit ← restoreCache store key paths
  return ⟨s.workdir, revision, key, hit, paths⟩

end BuildBench
