/-
The port range of entry.js as it comes from the command line.

`opts.get` hands over the argument of `-s` or `-e` as it was typed, a string of
digits, and an option that is missing is replaced by a number.  The loop of
`addPoolAddresses` starts with that value: its first test may compare two strings,
every later one compares a number.
-/

import NatPorte.Entry

namespace NatPorte
namespace PortRange

open ObjectMap Entry Numerals

/-- The argument of an option, decimal digits as they were typed. -/
structure Argument where
  typed : JsString
  digits : typed.all isDigit = true
  nonempty : typed ≠ []

inductive PortValue where
  | number (port : Int)
  | text (argument : Argument)

/-- `Number(value)`; for digits this is what parseInt gives. -/
def PortValue.toNumber : PortValue → Int
  | .number port => port
  | .text argument => parseInt argument.typed

/-- `left <= right`: two strings are compared as text, anything else as numbers. -/
def lessOrEqual : PortValue → PortValue → Bool
  | .text left, .text right => wordLe left.typed right.typed
  | left, right => left.toNumber ≤ right.toNumber

/-- `j++` leaves a number. -/
def increment (value : PortValue) : PortValue := .number (value.toNumber + 1)

/-- Rounds the loop has left: a first value that is text takes one more. -/
def roundsLeft (endPort : PortValue) : PortValue → Nat
  | .number port => (endPort.toNumber + 1 - port).toNat
  | .text argument => (endPort.toNumber + 1 - (parseInt argument.typed : Int)).toNat + 1

theorem roundsLeft_increment {j endPort : PortValue} (passed : lessOrEqual j endPort = true) :
    roundsLeft endPort (increment j) < roundsLeft endPort j := by
  cases j with
  | number port =>
      have inside : port ≤ endPort.toNumber := by
        cases endPort <;> exact of_decide_eq_true passed
      simp only [increment, roundsLeft, PortValue.toNumber]
      simp only [PortValue.toNumber] at inside
      omega
  | text argument =>
      simp only [increment, roundsLeft, PortValue.toNumber]
      omega

/-- `for (var j=startPort; j<=endPort; j++)`, with the values it pushes. -/
def portLoop (j endPort : PortValue) : List PortValue :=
  if lessOrEqual j endPort then j :: portLoop (increment j) endPort else []
termination_by roundsLeft endPort j
decreasing_by
  rename_i passed
  exact roundsLeft_increment passed

/-! ### addPoolAddresses -/

/-- An `Entry` object as far as `addPoolAddresses` reads and writes it. -/
structure Pool where
  startPort : PortValue
  endPort : PortValue
  poolAddrs : List JsString
  poolPorts : Object JsString (List PortValue)

def addPoolAddress (pool : Pool) (addr : JsString) : Pool :=
  if isIPv4 addr = false then pool
  else if addr ∈ pool.poolAddrs then pool
  else
    { pool with
      poolAddrs := pool.poolAddrs ++ [addr]
      poolPorts := set pool.poolPorts addr (portLoop pool.startPort pool.endPort) }

def addPoolAddresses (pool : Pool) (addrs : List JsString) : Pool :=
  addrs.foldl addPoolAddress pool

/-- What `pool_server` makes of an option: its argument, or the built-in number. -/
def configured (option : Option Argument) (builtIn : Int) : PortValue :=
  match option with
  | none => .number builtIn
  | some argument => .text argument

/-- `new Entry(...)` with the options `-s` and `-e`. -/
def newEntry (start finish : Option Argument) : Pool :=
  { startPort := configured start 4097
    endPort := configured finish 65534
    poolAddrs := []
    poolPorts := [] }

/-- Two strings: the start must not exceed as many leading digits of the end, or, typed
with more digits, must stay below the end after as many of its own. -/
def FirstTestHolds : PortValue → PortValue → Prop
  | .text start, .text finish => decimals.LeadingLe start.typed finish.typed
  | _, _ => True

theorem Argument.written (argument : Argument) : decimals.Written argument.typed :=
  List.all_eq_true.mp argument.digits

theorem lessOrEqual_iff {startPort endPort : PortValue}
    (ordered : startPort.toNumber ≤ endPort.toNumber) :
    lessOrEqual startPort endPort = true ↔ FirstTestHolds startPort endPort := by
  cases startPort with
  | number port =>
      have passes : lessOrEqual (.number port) endPort = true := by
        cases endPort <;> exact decide_eq_true ordered
      rw [passes, FirstTestHolds]
      · simp
      · intro start finish impossible
        cases impossible
  | text start =>
      cases endPort with
      | number port =>
          have passes : lessOrEqual (.text start) (.number port) = true := decide_eq_true ordered
          rw [passes, FirstTestHolds]
          · simp
          · intro start finish _ impossible
            cases impossible
      | text finish => exact @wordLe_iff _ _ decimals _ _ start.written finish.written

theorem portRange_cons {startPort endPort : Int} (inside : startPort ≤ endPort) :
    portRange startPort endPort = startPort :: portRange (startPort + 1) endPort := by
  have rounds : (endPort + 1 - startPort).toNat = (endPort + 1 - (startPort + 1)).toNat + 1 := by
    omega
  rw [portRange, rounds, List.range_succ_eq_map, List.map_cons, List.map_map, portRange]
  congr 1
  · exact Int.add_zero startPort
  · apply List.map_congr_left
    intro index _
    simp only [Function.comp_apply, Nat.succ_eq_add_one]
    omega

theorem portRange_nil {startPort endPort : Int} (outside : endPort < startPort) :
    portRange startPort endPort = [] := by
  have rounds : (endPort + 1 - startPort).toNat = 0 := by omega
  rw [portRange, rounds]
  rfl

theorem portLoop_number (port : Int) (endPort : PortValue) :
    (portLoop (.number port) endPort).map PortValue.toNumber = portRange port endPort.toNumber := by
  have test : lessOrEqual (.number port) endPort = decide (port ≤ endPort.toNumber) := by
    cases endPort <;> rfl
  generalize left : (endPort.toNumber + 1 - port).toNat = rounds
  induction rounds generalizing port with
  | zero =>
      have outside : ¬ port ≤ endPort.toNumber := by omega
      rw [portLoop, test, decide_eq_false outside, portRange_nil (by omega)]
      rfl
  | succ rounds ih =>
      have inside : port ≤ endPort.toNumber := by omega
      have later := ih (port + 1) (by cases endPort <;> rfl) (by omega)
      rw [portLoop, test, decide_eq_true inside, if_pos rfl, List.map_cons, portRange_cons inside]
      exact congrArg (port :: ·) later

theorem portLoop_range_iff {startPort endPort : PortValue}
    (ordered : startPort.toNumber ≤ endPort.toNumber) :
    (portLoop startPort endPort).map PortValue.toNumber =
      portRange startPort.toNumber endPort.toNumber ↔ FirstTestHolds startPort endPort := by
  rw [← lessOrEqual_iff ordered, portLoop]
  by_cases passes : lessOrEqual startPort endPort = true
  · rw [if_pos passes, List.map_cons, increment, portLoop_number, ← portRange_cons ordered]
    simp [passes]
  · rw [if_neg passes, portRange_cons ordered]
    simp [passes]

section Addresses

variable {pool : Pool} {addr : JsString}

theorem addPoolAddress_bounds (pool : Pool) (addr : JsString) :
    (addPoolAddress pool addr).startPort = pool.startPort ∧
      (addPoolAddress pool addr).endPort = pool.endPort := by
  unfold addPoolAddress
  split
  · exact ⟨rfl, rfl⟩
  · split
    · exact ⟨rfl, rfl⟩
    · exact ⟨rfl, rfl⟩

theorem addPoolAddress_pooled (pooled : addr ∈ pool.poolAddrs) (other : JsString) :
    addr ∈ (addPoolAddress pool other).poolAddrs ∧
      get (addPoolAddress pool other).poolPorts addr = get pool.poolPorts addr := by
  unfold addPoolAddress
  split
  · exact ⟨pooled, rfl⟩
  · split
    · exact ⟨pooled, rfl⟩
    · next fresh =>
        have different : addr ≠ other := fun same => fresh (same ▸ pooled)
        exact ⟨List.mem_append_left _ pooled, get_set_other different⟩

theorem addPoolAddress_unpooled {other : JsString} (fresh : addr ∉ pool.poolAddrs)
    (different : other ≠ addr) : addr ∉ (addPoolAddress pool other).poolAddrs := by
  unfold addPoolAddress
  split
  · exact fresh
  · split
    · exact fresh
    · intro member
      rcases List.mem_append.mp member with old | new
      · exact fresh old
      · exact different (List.mem_singleton.mp new).symm

theorem addPoolAddress_fresh (isAddress : isIPv4 addr = true) (fresh : addr ∉ pool.poolAddrs) :
    addr ∈ (addPoolAddress pool addr).poolAddrs ∧
      get (addPoolAddress pool addr).poolPorts addr =
        some (portLoop pool.startPort pool.endPort) := by
  rw [addPoolAddress, if_neg (by simp [isAddress]), if_neg fresh]
  exact ⟨List.mem_append_right _ List.mem_cons_self, get_set_self _ _ _⟩

theorem addPoolAddresses_pooled (pooled : addr ∈ pool.poolAddrs) (addrs : List JsString) :
    get (addPoolAddresses pool addrs).poolPorts addr = get pool.poolPorts addr := by
  induction addrs generalizing pool with
  | nil => rfl
  | cons other addrs ih =>
      obtain ⟨stays, same⟩ := addPoolAddress_pooled pooled other
      exact (ih stays).trans same

theorem addPoolAddresses_fresh {addrs : List JsString} (member : addr ∈ addrs)
    (isAddress : isIPv4 addr = true) (fresh : addr ∉ pool.poolAddrs) :
    get (addPoolAddresses pool addrs).poolPorts addr =
      some (portLoop pool.startPort pool.endPort) := by
  induction addrs generalizing pool with
  | nil => cases member
  | cons other addrs ih =>
      by_cases same : other = addr
      · subst same
        obtain ⟨pooled, free⟩ := addPoolAddress_fresh isAddress fresh
        exact (addPoolAddresses_pooled pooled addrs).trans free
      · have inRest : addr ∈ addrs := (List.mem_cons.mp member).resolve_left (Ne.symm same)
        obtain ⟨start, finish⟩ := addPoolAddress_bounds pool other
        have later := ih inRest (addPoolAddress_unpooled fresh same)
        rw [start, finish] at later
        exact later

end Addresses

/-- The free list is the configured range exactly when the first test holds: unless both
bounds were typed, always. -/
theorem configured_range_iff (pool : Pool)
    (ordered : pool.startPort.toNumber ≤ pool.endPort.toNumber) (addrs : List JsString)
    (addr : JsString) (member : addr ∈ addrs) (isAddress : isIPv4 addr = true)
    (fresh : addr ∉ pool.poolAddrs) :
    (∃ ports, get (addPoolAddresses pool addrs).poolPorts addr = some ports ∧
        ports.map PortValue.toNumber =
          portRange pool.startPort.toNumber pool.endPort.toNumber) ↔
      FirstTestHolds pool.startPort pool.endPort := by
  rw [addPoolAddresses_fresh member isAddress fresh, ← portLoop_range_iff ordered]
  constructor
  · rintro ⟨ports, pushed, range⟩
    cases pushed
    exact range
  · intro range
    exact ⟨_, rfl, range⟩

private def argument9000 : Argument := ⟨['9', '0', '0', '0'], rfl, List.cons_ne_nil _ _⟩

private def argument10000 : Argument := ⟨['1', '0', '0', '0', '0'], rfl, List.cons_ne_nil _ _⟩

private def wanAddr : JsString := ['1', '9', '2', '.', '0', '.', '2', '.', '1']

theorem configured_range_iff_start_typed :
    ∃ ports, get (addPoolAddresses (newEntry (some argument9000) none) [wanAddr]).poolPorts wanAddr =
        some ports ∧ ports.map PortValue.toNumber = portRange 9000 65534 :=
  (configured_range_iff (newEntry (some argument9000) none) (by decide) [wanAddr] wanAddr
    List.mem_cons_self (by decide) List.not_mem_nil).mpr trivial

/-- As text 9000 comes behind 10000, so the new address gets no port at all. -/
theorem configured_range_unused :
    get (addPoolAddresses (newEntry (some argument9000) (some argument10000)) [wanAddr]).poolPorts
        wanAddr = some [] ∧
      portRange 9000 10000 ≠ [] := by
  have fails : lessOrEqual (.text argument9000) (.text argument10000) = false := by decide
  constructor
  · rw [addPoolAddresses_fresh List.mem_cons_self (by decide) List.not_mem_nil]
    simp only [newEntry, configured]
    rw [portLoop, fails]
    rfl
  · rw [portRange_cons (by decide)]
    exact List.cons_ne_nil _ _

end PortRange
end NatPorte
