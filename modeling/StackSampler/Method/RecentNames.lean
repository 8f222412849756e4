import StackSampler.Method.Naming

/-!
A bounded cache of method names. When it is full, the name whose last use is oldest makes room.

Uses are numbered, and the cache keeps the numbers in a second, ordered table, so that finding the
oldest use takes no scan: names are looked up while the host is suspended.
-/

namespace StackSampler

structure CachedName where
  name : String
  lastUse : Nat
deriving DecidableEq, Repr

structure RecentNames where
  capacity : Nat
  names : Std.TreeMap MethodId CachedName := ∅
  uses : Std.TreeMap Nat MethodId := ∅
  clock : Nat := 0
  hits : Nat := 0
  misses : Nat := 0
  evictions : Nat := 0

structure NameCounts where
  hits : UInt64 := 0
  misses : UInt64 := 0
  evictions : UInt64 := 0
  entries : UInt64 := 0
deriving DecidableEq, Repr

namespace RecentNames

def ofCapacity (capacity : Nat) : RecentNames := { capacity := max capacity 1 }

def size (cache : RecentNames) : Nat := cache.names.size

def isEmpty (cache : RecentNames) : Bool := cache.names.isEmpty

def contains (cache : RecentNames) (method : MethodId) : Bool := cache.names.contains method

def counts (cache : RecentNames) : NameCounts where
  hits := UInt64.ofNat cache.hits
  misses := UInt64.ofNat cache.misses
  evictions := UInt64.ofNat cache.evictions
  entries := UInt64.ofNat cache.size

/-- Removes the name whose last use is oldest. -/
def evict (cache : RecentNames) : RecentNames :=
  match cache.uses.minEntry? with
  | none => cache
  | some (use, method) =>
      { cache with
        uses := cache.uses.erase use
        names := cache.names.erase method
        evictions := cache.evictions + 1 }

def makeRoom (cache : RecentNames) : RecentNames :=
  if cache.capacity ≤ cache.size then cache.evict else cache

def hit (cache : RecentNames) (method : MethodId) (cached : CachedName) : RecentNames :=
  { cache with
    names := cache.names.insert method { cached with lastUse := cache.clock + 1 }
    uses := (cache.uses.erase cached.lastUse).insert (cache.clock + 1) method
    clock := cache.clock + 1
    hits := cache.hits + 1 }

/-- Counts a use of a name that is not cached and makes room for it, before it is looked up. -/
def miss (cache : RecentNames) : RecentNames :=
  { cache with clock := cache.clock + 1, misses := cache.misses + 1 }.makeRoom

def keep (cache : RecentNames) (method : MethodId) (name : String) : RecentNames :=
  { cache with
    names := cache.names.insert method ⟨name, cache.clock⟩
    uses := cache.uses.insert cache.clock method }

variable {σ : Type}

/-- The name of a method, asking the source only on a miss. A panic of the source leaves the miss
counted and the room made, and keeps no name. -/
def resolve (source : Metadata σ) (cache : RecentNames) (method : MethodId) (context : WalkContext)
    (state : σ) : Except Panic String × RecentNames × σ :=
  match cache.names[method]? with
  | some cached => (.ok cached.name, cache.hit method cached, state)
  | none =>
      match Naming.methodName source method context state with
      | (.ok name, state) => (.ok name, cache.miss.keep method name, state)
      | (.error panic, state) => (.error panic, cache.miss, state)

end RecentNames

end StackSampler
