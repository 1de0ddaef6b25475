import Applauncherd.Wire.Address
import Applauncherd.Launcher.Receive

/-! The listening sockets of the launcher: `Connection::socketPool`, the static map from a
family's socket id to the descriptor `Connection::initSocket` opened for it, and the lookups of
`Connection::findSocket` and of the constructor. `initSocket` opens a socket only for an id the
map lacks, so however often the ids come, the map holds each once, with the descriptor of its
first call; and since a descriptor that succeeded is not negative, `findSocket`'s -1 is never
one the map holds. -/

namespace Applauncherd.Launcher.Pool
open Applauncherd.Wire.Address Applauncherd.Launcher.Receive

/-- `PoolType`, the `std::map<string, int>` of `socketPool`: its entries, one per key. -/
structure PoolType where
  entries : List (List UInt8 × Int)
  distinct : (entries.map Prod.fst).Nodup

/-- The empty map the process starts with. -/
def PoolType.empty : PoolType := ⟨[], List.nodup_nil⟩

/-- `std::map::find`: the value of the entry of `key`, none for `end()`. -/
def PoolType.find (pool : PoolType) (key : List UInt8) : Option Int :=
  (pool.entries.find? fun entry => entry.1 = key).map Prod.snd

/-- `pool[key] = value`: the entry of `key`, if any, gives way to one with `value`. -/
def PoolType.set (pool : PoolType) (key : List UInt8) (value : Int) : PoolType :=
  ⟨(key, value) :: pool.entries.filter fun entry => entry.1 ≠ key, by
    refine List.nodup_cons.mpr ⟨by simp, ?_⟩
    exact pool.distinct.sublist ((List.filter_sublist _).map _)⟩

/-- A key the map lacks: setting it adds one entry. -/
theorem PoolType.length_set_of_find_none {pool : PoolType} {key : List UInt8}
    (missing : pool.find key = none) (value : Int) :
    (pool.set key value).entries.length = pool.entries.length + 1 := by
  have absent : ∀ entry ∈ pool.entries, entry.1 ≠ key := by simpa [PoolType.find] using missing
  have keep : pool.entries.filter (fun entry => entry.1 ≠ key) = pool.entries :=
    List.filter_eq_self.mpr fun entry member => by simpa using absent entry member
  simp only [PoolType.set, keep, List.length_cons]

@[simp] theorem PoolType.find_empty (key : List UInt8) : PoolType.empty.find key = none := rfl

theorem PoolType.find_set (pool : PoolType) (key key' : List UInt8) (value : Int) :
    (pool.set key value).find key' = if key' = key then some value else pool.find key' := by
  by_cases same : key' = key
  · simp [PoolType.find, PoolType.set, same]
  · have other : ∀ entry : List UInt8 × Int, entry.1 = key' → entry.1 ≠ key :=
      fun entry named => named ▸ same
    simp only [PoolType.find, PoolType.set, List.find?_cons, List.find?_filter, same, if_false]
    simp only [decide_eq_true_eq, Ne.symm same, decide_False, cond_false]
    congr 2
    funext entry
    by_cases named : entry.1 = key' <;> simp [named, other entry, same]

/-- What the kernel answers the calls `initSocket` makes: the descriptor of the `n`-th
`socket(PF_UNIX, SOCK_STREAM, 0)` of the process (negative when it fails), and the results of
`bind` on a descriptor and an `sa_data`, and of `listen(sockfd, 10)` on a descriptor. -/
structure Kernel where
  socket : Nat → Int
  bind : Int → List UInt8 → Int
  listen : Int → Int

/-- The static state `initSocket` works on: `socketPool`, and what each `socket` call it made
returned, in order. -/
structure Sockets where
  pool : PoolType
  created : List Int

/-- The process before its first `initSocket`. -/
def Sockets.init : Sockets := ⟨.empty, []⟩

section Init
variable (kernel : Kernel) (stack : List UInt8)

/-- `Connection::initSocket(socketId)`, with `stack` the bytes of the uninitialised
`struct sockaddr`: for an id the map lacks, a new socket, bound to the `sa_data` built from the
id and listening, stored under the id; `logErrorAndDie(EXIT_FAILURE, ...)` when a call fails.
The `unlink` of the path is not modelled. -/
def Connection.initSocket (sockets : Sockets) (socketId : List UInt8) : Except Nat Sockets :=
  match sockets.pool.find socketId with
  | some _ => .ok sockets
  | none =>
      let sockfd := kernel.socket sockets.created.length
      let sockets := { sockets with created := sockets.created ++ [sockfd] }
      if sockfd < 0 then .error 1
      else if kernel.bind sockfd (Wire.Address.initSocket socketId stack) < 0 then .error 1
      else if kernel.listen sockfd < 0 then .error 1
      else .ok { sockets with pool := sockets.pool.set socketId sockfd }

/-- `Connection::findSocket`: the descriptor stored under the id, -1 for an id not in the map. -/
def Connection.findSocket (pool : PoolType) (socketId : List UInt8) : Int :=
  (pool.find socketId).getD (-1)

/-- `Connection::Connection(socketId)`: `m_curSocket` is `findSocket(socketId)` and the members
`Connection.init` lists take their initial values; -1 is `logErrorAndDie(EXIT_FAILURE, ...)`. -/
def Connection.new (pool : PoolType) (environ : List (List UInt8)) (socketId : List UInt8) :
    Except Nat (Int × Connection) :=
  let curSocket := Connection.findSocket pool socketId
  if curSocket = -1 then .error 1 else .ok (curSocket, Connection.init environ)

/-- The calls `initSocket` for each of `ids` in turn, from the start of the process, as
`Daemon::run` makes them for the booster families; the first that dies ends the run. -/
def initSockets (ids : List (List UInt8)) : Except Nat Sockets :=
  ids.foldlM (Connection.initSocket kernel stack) Sockets.init

/-- The constructor succeeds exactly when `findSocket` finds a descriptor. -/
theorem Connection.new_ok_iff (pool : PoolType) (environ : List (List UInt8)) (socketId : List UInt8) :
    (∃ made, Connection.new pool environ socketId = .ok made) ↔
      Connection.findSocket pool socketId ≠ -1 := by
  by_cases missing : Connection.findSocket pool socketId = -1 <;> simp [Connection.new, missing]

/-- The ids of `ids`, each once, in the order of their first calls. -/
def firstCalls (ids : List (List UInt8)) : List (List UInt8) :=
  ids.foldl (fun seen socketId => if socketId ∈ seen then seen else seen ++ [socketId]) []

theorem mem_foldl_firstCalls (seen ids : List (List UInt8)) (key : List UInt8) :
    key ∈ ids.foldl (fun seen socketId => if socketId ∈ seen then seen else seen ++ [socketId])
      seen ↔ key ∈ seen ∨ key ∈ ids := by
  induction ids generalizing seen with
  | nil => simp
  | cons socketId ids ih =>
    rw [List.foldl_cons, ih]
    by_cases seenBefore : socketId ∈ seen
    · by_cases named : key = socketId <;> simp [seenBefore, named]
    · simp [seenBefore, or_assoc]

@[simp] theorem mem_firstCalls {ids : List (List UInt8)} {key : List UInt8} :
    key ∈ firstCalls ids ↔ key ∈ ids := by
  simp [firstCalls, mem_foldl_firstCalls]

theorem firstCalls_append (ids : List (List UInt8)) (socketId : List UInt8) :
    firstCalls (ids ++ [socketId]) =
      if socketId ∈ ids then firstCalls ids else firstCalls ids ++ [socketId] := by
  simp only [firstCalls, List.foldl_append, List.foldl_cons, List.foldl_nil]
  simp [mem_foldl_firstCalls]

/-- What `socketPool` holds after an `initSocket` for each of `ids`: one `socket` call for each
distinct id, one entry for each, the `k`-th id to come first bound to what the `k`-th `socket`
call returned, and no other id. -/
structure Pooled (ids : List (List UInt8)) (sockets : Sockets) : Prop where
  calls : sockets.created = (List.range (firstCalls ids).length).map kernel.socket
  size : sockets.pool.entries.length = (firstCalls ids).length
  bound : ∀ k (lt : k < (firstCalls ids).length),
    sockets.pool.find (firstCalls ids)[k] = some (kernel.socket k)
  unbound : ∀ key, key ∉ ids → sockets.pool.find key = none

theorem pooled_init : Pooled kernel [] Sockets.init :=
  ⟨rfl, rfl, fun _ lt => absurd lt (Nat.not_lt_zero _), fun _ _ => rfl⟩

variable {kernel} in
theorem Pooled.find_of_mem {ids : List (List UInt8)} {sockets : Sockets}
    (pooled : Pooled kernel ids sockets) {key : List UInt8} (member : key ∈ ids) :
    ∃ k, sockets.pool.find key = some (kernel.socket k) := by
  obtain ⟨k, lt, rfl⟩ := List.mem_iff_getElem.mp (mem_firstCalls.mpr member)
  exact ⟨k, pooled.bound k lt⟩

section Succeeding
variable {kernel} (socketOk : ∀ n, 0 ≤ kernel.socket n)
  (bindOk : ∀ fd address, 0 ≤ kernel.bind fd address) (listenOk : ∀ fd, 0 ≤ kernel.listen fd)
include socketOk bindOk listenOk

/-- One `initSocket`, its calls succeeding: an id seen before leaves the state as it was, a new
one gets the next `socket` call's descriptor. -/
theorem initSocket_pooled {ids : List (List UInt8)} {sockets : Sockets}
    (pooled : Pooled kernel ids sockets) (socketId : List UInt8) :
    ∃ sockets', Connection.initSocket kernel stack sockets socketId = .ok sockets' ∧
      Pooled kernel (ids ++ [socketId]) sockets' := by
  by_cases seen : socketId ∈ ids
  · obtain ⟨k, found⟩ := pooled.find_of_mem seen
    have firsts : firstCalls (ids ++ [socketId]) = firstCalls ids := by rw [firstCalls_append, if_pos seen]
    refine ⟨sockets, by simp [Connection.initSocket, found], ?_, ?_, ?_, fun key absent => ?_⟩
    · rw [firsts, pooled.calls]
    · rw [firsts, pooled.size]
    · simpa only [firsts] using pooled.bound
    · exact pooled.unbound key fun member => absent (List.mem_append_left _ member)
  · have fresh : socketId ∉ firstCalls ids := mem_firstCalls.not.mpr seen
    have missing := pooled.unbound socketId seen
    have next : kernel.socket sockets.created.length = kernel.socket (firstCalls ids).length := by
      rw [pooled.calls, List.length_map, List.length_range]
    have firsts : firstCalls (ids ++ [socketId]) = firstCalls ids ++ [socketId] := by
      rw [firstCalls_append, if_neg seen]
    have made : Connection.initSocket kernel stack sockets socketId =
        .ok ⟨sockets.pool.set socketId (kernel.socket (firstCalls ids).length),
          sockets.created ++ [kernel.socket (firstCalls ids).length]⟩ := by
      simp [Connection.initSocket, missing, next, fun n => Int.not_lt.mpr (socketOk n),
        fun fd address => Int.not_lt.mpr (bindOk fd address), fun fd => Int.not_lt.mpr (listenOk fd)]
    refine ⟨_, made, ?_, ?_, fun k lt => ?_, fun key absent => ?_⟩
    · simp [firsts, pooled.calls, List.range_succ]
    · rw [firsts, List.length_append, ← pooled.size]
      exact PoolType.length_set_of_find_none missing _
    · simp only [firsts, List.length_append, List.length_singleton] at lt ⊢
      rw [PoolType.find_set]
      by_cases earlier : k < (firstCalls ids).length
      · have other : (firstCalls ids)[k] ≠ socketId := fun same => fresh (same ▸ List.getElem_mem _)
        rw [List.getElem_append_left earlier, if_neg other, pooled.bound k earlier]
      · have last : k = (firstCalls ids).length := by omega
        subst last
        simp
    · have other : key ≠ socketId := fun same => absent (by simp [same])
      rw [PoolType.find_set, if_neg other]
      exact pooled.unbound key fun member => absent (List.mem_append_left _ member)

/-- The calls `initSocket` for `ids` after those for `seen`, from a state that holds the ids of
`seen`, hold the ids of both. -/
theorem foldlM_initSocket_pooled (seen ids : List (List UInt8)) {sockets : Sockets}
    (pooled : Pooled kernel seen sockets) :
    ∃ sockets', ids.foldlM (Connection.initSocket kernel stack) sockets = .ok sockets' ∧
      Pooled kernel (seen ++ ids) sockets' := by
  induction ids generalizing seen sockets with
  | nil => exact ⟨sockets, rfl, by simpa using pooled⟩
  | cons socketId ids ih =>
    obtain ⟨next, made, pooledNext⟩ := initSocket_pooled stack socketOk bindOk listenOk pooled socketId
    obtain ⟨last, ran, pooledLast⟩ := ih _ pooledNext
    refine ⟨last, ?_, by simpa using pooledLast⟩
    rw [List.foldlM_cons, made]
    exact ran

omit bindOk listenOk in
/-- With every descriptor not negative, `findSocket` answers -1 exactly for the ids never
initialised. -/
theorem Pooled.findSocket_eq_neg_one_iff {ids : List (List UInt8)} {sockets : Sockets}
    (pooled : Pooled kernel ids sockets) (socketId : List UInt8) :
    Connection.findSocket sockets.pool socketId = -1 ↔ socketId ∉ ids := by
  by_cases member : socketId ∈ ids
  · obtain ⟨k, found⟩ := pooled.find_of_mem member
    have := socketOk k
    simp only [Connection.findSocket, found, Option.getD_some, member, not_true_eq_false, iff_false]
    omega
  · simp [Connection.findSocket, pooled.unbound socketId member, member]

/-- Any sequence of `initSocket` calls whose `socket`, `bind` and `listen` succeed: the map holds
one entry for each distinct id and no other, the `k`-th id to come first bound to the descriptor
of the `k`-th `socket` call, the one call made for it (a later call for the id makes none and
changes nothing). So `findSocket` answers that descriptor for an id initialised and -1 exactly for
an id never initialised, and the constructor succeeds exactly for the ids initialised. -/
theorem initSockets_pool (environ : List (List UInt8)) (ids : List (List UInt8)) :
    ∃ sockets, initSockets kernel stack ids = .ok sockets ∧ Pooled kernel ids sockets ∧
      (∀ k (lt : k < (firstCalls ids).length),
        Connection.findSocket sockets.pool (firstCalls ids)[k] = kernel.socket k) ∧
      (∀ socketId, Connection.findSocket sockets.pool socketId = -1 ↔ socketId ∉ ids) ∧
      ∀ socketId, (∃ made, Connection.new sockets.pool environ socketId = .ok made) ↔
        socketId ∈ ids := by
  obtain ⟨sockets, ran, pooled⟩ := foldlM_initSocket_pooled stack socketOk bindOk listenOk [] ids
    (pooled_init kernel)
  rw [List.nil_append] at pooled
  refine ⟨sockets, ran, pooled, fun k lt => by simp [Connection.findSocket, pooled.bound k lt],
    pooled.findSocket_eq_neg_one_iff socketOk, fun socketId => ?_⟩
  rw [Connection.new_ok_iff, Ne, pooled.findSocket_eq_neg_one_iff socketOk, not_not]

end Succeeding

/-- The unit test's calls: `aaa`, `bbb`, `bbb`, `aaa`. -/
def testIds : List (List UInt8) := [[97, 97, 97], [98, 98, 98], [98, 98, 98], [97, 97, 97]]

/-- A kernel whose `socket` calls return 3, 4, ... and whose `bind` and `listen` succeed. -/
def sampleKernel : Kernel := ⟨fun n => n + 3, fun _ _ => 0, fun _ => 0⟩

theorem test_ids_pool_size :
    ∃ sockets, initSockets sampleKernel [] testIds = .ok sockets ∧ sockets.pool.entries.length = 2 :=
  (initSockets_pool [] (fun n => by simp [sampleKernel]; omega) (fun _ _ => Int.le_refl 0)
    (fun _ => Int.le_refl 0) [] testIds).imp fun _ facts => ⟨facts.1, facts.2.1.size⟩

end Init

end Applauncherd.Launcher.Pool
