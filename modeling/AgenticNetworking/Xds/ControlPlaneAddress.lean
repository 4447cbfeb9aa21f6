import Mathlib.Data.List.Sort
import Mathlib.Data.String.Basic

/-!
# Choosing the address the xDS server listens on

`getControlPlaneAddress` lists the host's interfaces, sorts them with a hand-written comparator
(`docker0` first, then `eth0`, then by name), and returns the first eligible IPv4 address of the
first usable interface.  `sort.Slice` is not stable and its algorithm is not modelled: the
results hold for *any* function that returns a permutation sorted by the comparator.

* **The comparator is the preference order.**  On distinct names `interfaceLess` is exactly
  `preferredBefore` — rank `docker0 < eth0 < others`, then name order — which is a strict total
  order (`interfaceLess_iff`).  So a sorted permutation of interfaces with distinct names is
  unique (`sortSlice_eq_of_perm`), whatever order the host lists them in.
* **The choice.**  `getControlPlaneAddress_spec`: the result does not depend on the enumeration
  order; it is the address of the most preferred interface that has one; and the function fails,
  with its one message, exactly when no interface has one.  "Has one" means usable as well: an
  eligible address on a down interface is never chosen
  (`getControlPlaneAddress_down_interface_error`).
-/

namespace AgenticNetworking.Xds

/-! ## `net.IP` -/

/-- An IPv4 address, the four bytes `To4` returns. -/
structure IP4 where
  a : UInt8
  b : UInt8
  c : UInt8
  d : UInt8
  deriving Repr, DecidableEq

/-- `net.IP`: a byte slice, 4 bytes long for IPv4 and 16 for IPv6. -/
abbrev IP := List UInt8

/-- `net.IPv6loopback`, `::1`. -/
def IPv6loopback : IP := [0, 0, 0, 0, 0, 0, 0, 0, 0, 0, 0, 0, 0, 0, 0, 1]

/-- `ip.To4()`: a 4-byte address, or the last four bytes of an IPv4-mapped IPv6 address
(`::ffff:a.b.c.d`); otherwise `nil`. -/
def IP.to4 (ip : IP) : Option IP4 :=
  if ip.length = 4 then some ⟨ip.getD 0 0, ip.getD 1 0, ip.getD 2 0, ip.getD 3 0⟩
  else if ip.length = 16 ∧ (ip.take 10).all (· == 0) ∧ ip.getD 10 0 = 0xff ∧
      ip.getD 11 0 = 0xff then
    some ⟨ip.getD 12 0, ip.getD 13 0, ip.getD 14 0, ip.getD 15 0⟩
  else none

/-- `ip.IsLoopback()`: `127.0.0.0/8`, or `::1`. -/
def IP.isLoopback (ip : IP) : Bool :=
  match ip.to4 with
  | some ip4 => ip4.a == 127
  | none => ip == IPv6loopback

/-- `ip.IsLinkLocalUnicast()`: `169.254.0.0/16`, or `fe80::/10`. -/
def IP.isLinkLocalUnicast (ip : IP) : Bool :=
  match ip.to4 with
  | some ip4 => ip4.a == 169 && ip4.b == 254
  | none => ip.length == 16 && ip.getD 0 0 == 0xfe && (ip.getD 1 0 &&& 0xc0) == 0x80

/-- `ip.String()` of an IPv4 address: dotted decimal. -/
def IP4.string (ip4 : IP4) : String :=
  toString ip4.a ++ "." ++ toString ip4.b ++ "." ++ toString ip4.c ++ "." ++ toString ip4.d

/-! ## Interfaces -/

/-- A `net.Addr` from `Interface.Addrs()`: an `*IPNet` or an `*IPAddr` (masks and zones are not
read). -/
inductive Addr where
  | ipNet (ip : IP)
  | ipAddr (ip : IP)
  deriving Repr, DecidableEq

/-- `net.FlagUp`. -/
def FlagUp : ℕ := 1

/-- `net.FlagLoopback`. -/
def FlagLoopback : ℕ := 4

/-- A `net.Interface`, with what its `Addrs()` call returns. -/
structure NetInterface where
  name : String
  flags : ℕ
  addrs : Except String (List Addr)

/-- The inner loop's test: an `*IPNet` whose IP is IPv4, not link-local and not loopback gives
`ipNet.IP.String()`, which for such an IP is the dotted form of its `To4`. -/
def eligibleAddress : Addr → Option String
  | .ipNet ip =>
      match ip.to4 with
      | some ip4 => if !ip.isLinkLocalUnicast && !ip.isLoopback then some ip4.string else none
      | none => none
  | .ipAddr _ => none

/-- One pass of the outer loop: a down or loopback interface, or one whose addresses cannot be
read, is skipped; otherwise its first eligible address, if any. -/
def interfaceAddress (iface : NetInterface) : Option String :=
  if iface.flags &&& FlagUp = 0 ∨ iface.flags &&& FlagLoopback ≠ 0 then none
  else
    match iface.addrs with
    | .error _ => none
    | .ok addrs => addrs.findSome? eligibleAddress

/-- The comparator `getControlPlaneAddress` passes to `sort.Slice`. -/
def interfaceLess (ifaceI ifaceJ : NetInterface) : Bool :=
  let nameI := ifaceI.name
  let nameJ := ifaceJ.name
  if nameI = "docker0" then true
  else if nameJ = "docker0" then false
  else if nameI = "eth0" then nameJ ≠ "docker0"
  else if nameJ = "eth0" then false
  else nameI < nameJ

/-- What `sort.Slice(s, less)` guarantees of its result: no element is `less` than one before
it. -/
def SortedBy (less : NetInterface → NetInterface → Bool) (l : List NetInterface) : Prop :=
  l.Pairwise fun a b => less b a = false

instance (less : NetInterface → NetInterface → Bool) (l : List NetInterface) :
    Decidable (SortedBy less l) :=
  inferInstanceAs (Decidable (l.Pairwise _))

/-- The error when no interface offers an address. -/
def noAddressError : String :=
  "no suitable global unicast IPv4 address found on any active non-loopback interface"

/-- **`getControlPlaneAddress()`**, given what `net.Interfaces()` returns and the sort. -/
def getControlPlaneAddress (interfaces : Except String (List NetInterface))
    (sortSlice : (NetInterface → NetInterface → Bool) → List NetInterface → List NetInterface) :
    Except String String :=
  match interfaces with
  | .error err => .error err
  | .ok interfaces =>
      match (sortSlice interfaceLess interfaces).findSome? interfaceAddress with
      | some address => .ok address
      | none => .error noAddressError

/-! ## The preference order -/

/-- `docker0` first, then `eth0`, then every other name. -/
def preferenceRank (name : String) : ℕ :=
  if name = "docker0" then 0 else if name = "eth0" then 1 else 2

/-- `a` is preferred to `b`: it has a lower rank, or the same rank and a smaller name. -/
def preferredBefore (a b : String) : Prop :=
  preferenceRank a < preferenceRank b ∨ (preferenceRank a = preferenceRank b ∧ a < b)

theorem preferredBefore_asymm {a b : String} (h : preferredBefore a b) : ¬preferredBefore b a := by
  rintro (h' | ⟨h', h''⟩) <;> rcases h with h | ⟨h, h₀⟩
  · omega
  · omega
  · omega
  · exact lt_asymm h₀ h''

theorem preferredBefore_total {a b : String} (h : a ≠ b) :
    preferredBefore a b ∨ preferredBefore b a := by
  unfold preferredBefore
  rcases lt_trichotomy (preferenceRank a) (preferenceRank b) with hr | hr | hr
  · exact .inl (.inl hr)
  · rcases lt_or_gt_of_ne h with hab | hab
    · exact .inl (.inr ⟨hr, hab⟩)
    · exact .inr (.inr ⟨hr.symm, hab⟩)
  · exact .inr (.inl hr)

/-- **On distinct names the comparator is the preference order.** -/
theorem interfaceLess_iff {i j : NetInterface} (h : i.name ≠ j.name) :
    interfaceLess i j = true ↔ preferredBefore i.name j.name := by
  unfold interfaceLess preferredBefore preferenceRank
  by_cases hi : i.name = "docker0" <;> by_cases hj : j.name = "docker0" <;>
    by_cases hi' : i.name = "eth0" <;> by_cases hj' : j.name = "eth0" <;> simp_all

/-- A list sorted by the comparator, with distinct names, is strictly sorted by preference. -/
theorem sorted_preferredBefore {l : List NetInterface} (hnames : (l.map NetInterface.name).Nodup)
    (hs : SortedBy interfaceLess l) : l.Pairwise fun a b => preferredBefore a.name b.name := by
  rw [List.Nodup, List.pairwise_map] at hnames
  refine (List.Pairwise.and hs hnames).imp fun ⟨hba, hne⟩ => ?_
  rcases preferredBefore_total hne with h | h
  · exact h
  · rw [← interfaceLess_iff (Ne.symm hne), hba] at h
    cases h

/-- **`sort.Slice` has one possible result** on interfaces with distinct names. -/
theorem sortSlice_eq_of_perm {l₁ l₂ : List NetInterface} (hp : l₁.Perm l₂)
    (hnames : (l₁.map NetInterface.name).Nodup) (h₁ : SortedBy interfaceLess l₁)
    (h₂ : SortedBy interfaceLess l₂) : l₁ = l₂ :=
  haveI : IsAntisymm NetInterface fun a b => preferredBefore a.name b.name :=
    ⟨fun _ _ h h' => absurd h' (preferredBefore_asymm h)⟩
  List.eq_of_perm_of_sorted hp (sorted_preferredBefore hnames h₁)
    (sorted_preferredBefore ((hp.map _).nodup_iff.mp hnames) h₂)

/-! ## The choice -/

/-- On a list in preference order, the first interface with an address is the most preferred
one. -/
theorem findSome?_eq_some_iff_of_sorted {l : List NetInterface}
    (hs : l.Pairwise fun a b => preferredBefore a.name b.name) (address : String) :
    l.findSome? interfaceAddress = some address ↔
      ∃ i ∈ l, interfaceAddress i = some address ∧
        ∀ j ∈ l, j ≠ i → (interfaceAddress j).isSome → preferredBefore i.name j.name := by
  induction l with
  | nil => simp
  | cons x l ih =>
      rw [List.pairwise_cons] at hs
      cases hx : interfaceAddress x with
      | some a =>
          simp only [List.findSome?_cons, hx, Option.some.injEq]
          constructor
          · rintro rfl
            refine ⟨x, List.mem_cons_self x l, hx, fun j hj hne _ => hs.1 j ?_⟩
            exact (List.mem_cons.mp hj).resolve_left hne
          · rintro ⟨i, hi, hia, hmin⟩
            by_cases hix : x = i
            · subst hix; rw [hx] at hia; exact Option.some.inj hia
            · -- `x` has an address too, and comes first: it would be preferred to `i`
              have hi' := (List.mem_cons.mp hi).resolve_left fun h => hix h.symm
              exact absurd (hs.1 i hi')
                (preferredBefore_asymm (hmin x (List.mem_cons_self x l) hix (by rw [hx]; rfl)))
      | none =>
          simp only [List.findSome?_cons, hx, ih hs.2]
          constructor
          · rintro ⟨i, hi, hia, hmin⟩
            refine ⟨i, List.mem_cons_of_mem x hi, hia, fun j hj hne hsome => ?_⟩
            rcases List.mem_cons.mp hj with rfl | hj
            · rw [hx] at hsome; cases hsome
            · exact hmin j hj hne hsome
          · rintro ⟨i, hi, hia, hmin⟩
            rcases List.mem_cons.mp hi with rfl | hi
            · rw [hx] at hia; cases hia
            · exact ⟨i, hi, hia, fun j hj => hmin j (List.mem_cons_of_mem x hj)⟩

theorem getControlPlaneAddress_eq_ok_iff (interfaces : List NetInterface)
    (sortSlice : (NetInterface → NetInterface → Bool) → List NetInterface → List NetInterface)
    (address : String) :
    getControlPlaneAddress (.ok interfaces) sortSlice = .ok address ↔
      (sortSlice interfaceLess interfaces).findSome? interfaceAddress = some address := by
  cases h : (sortSlice interfaceLess interfaces).findSome? interfaceAddress <;>
    simp [getControlPlaneAddress, h]

theorem getControlPlaneAddress_eq_error_iff (interfaces : List NetInterface)
    (sortSlice : (NetInterface → NetInterface → Bool) → List NetInterface → List NetInterface)
    (err : String) :
    getControlPlaneAddress (.ok interfaces) sortSlice = .error err ↔
      err = noAddressError ∧ (sortSlice interfaceLess interfaces).findSome? interfaceAddress = none := by
  cases h : (sortSlice interfaceLess interfaces).findSome? interfaceAddress <;>
    simp [getControlPlaneAddress, h, eq_comm]

/-- **The address does not depend on the enumeration order, and is the preferred one.**  For
interfaces with distinct names, listed in any order, and any sort returning a permutation sorted
by the comparator: the result is the same; it is the address of the interface with an address
that is preferred to every other such interface; and the function fails, with its message,
exactly when no interface has an address. -/
theorem getControlPlaneAddress_spec
    (sortSlice : (NetInterface → NetInterface → Bool) → List NetInterface → List NetInterface)
    (ifaces ifaces' : List NetInterface) (hnames : (ifaces.map NetInterface.name).Nodup)
    (hperm : ifaces'.Perm ifaces)
    (hsort : ∀ l, l.Perm ifaces →
      (sortSlice interfaceLess l).Perm l ∧ SortedBy interfaceLess (sortSlice interfaceLess l)) :
    getControlPlaneAddress (.ok ifaces') sortSlice = getControlPlaneAddress (.ok ifaces) sortSlice ∧
      (∀ address, getControlPlaneAddress (.ok ifaces) sortSlice = .ok address ↔
        ∃ i ∈ ifaces, interfaceAddress i = some address ∧
          ∀ j ∈ ifaces, j ≠ i → (interfaceAddress j).isSome → preferredBefore i.name j.name) ∧
      (∀ err, getControlPlaneAddress (.ok ifaces) sortSlice = .error err ↔
        err = noAddressError ∧ ∀ i ∈ ifaces, interfaceAddress i = none) := by
  obtain ⟨hp, hs⟩ := hsort ifaces (List.Perm.refl _)
  obtain ⟨hp', hs'⟩ := hsort ifaces' hperm
  have hnames' := (hp.map NetInterface.name).nodup_iff.mpr hnames
  have heq : sortSlice interfaceLess ifaces' = sortSlice interfaceLess ifaces :=
    sortSlice_eq_of_perm ((hp'.trans hperm).trans hp.symm)
      (((hp'.trans hperm).map NetInterface.name).nodup_iff.mpr hnames) hs' hs
  refine ⟨by rw [getControlPlaneAddress, getControlPlaneAddress, heq], fun address => ?_,
    fun err => ?_⟩
  · rw [getControlPlaneAddress_eq_ok_iff,
      findSome?_eq_some_iff_of_sorted (sorted_preferredBefore hnames' hs)]
    simp only [hp.mem_iff]
  · rw [getControlPlaneAddress_eq_error_iff, List.findSome?_eq_none_iff]
    simp only [hp.mem_iff]

/-! ## Three interfaces -/

/-- The loopback interface. -/
def loInterface : NetInterface := ⟨"lo", 5, .ok [.ipNet [127, 0, 0, 1]]⟩

/-- `eth0`, listing a link-local IPv6 address before an IPv4 one. -/
def eth0Interface : NetInterface :=
  ⟨"eth0", 1, .ok [.ipNet (0xfe :: 0x80 :: List.replicate 14 0), .ipNet [10, 0, 0, 5]]⟩

/-- `docker0`, whose addresses cannot be read. -/
def docker0Interface : NetInterface := ⟨"docker0", 1, .error "address family not supported"⟩

/-- A sort that puts these three interfaces in comparator order. -/
def sortThree : (NetInterface → NetInterface → Bool) → List NetInterface → List NetInterface :=
  fun _ _ => [docker0Interface, eth0Interface, loInterface]

/-- The host lists `lo, eth0, docker0` or `eth0, docker0, lo`. -/
theorem getControlPlaneAddress_spec_three :
    ([loInterface, eth0Interface, docker0Interface].map NetInterface.name).Nodup ∧
      [eth0Interface, docker0Interface, loInterface].Perm
        [loInterface, eth0Interface, docker0Interface] ∧
      (∀ l, l.Perm [loInterface, eth0Interface, docker0Interface] →
        (sortThree interfaceLess l).Perm l ∧ SortedBy interfaceLess (sortThree interfaceLess l)) ∧
      getControlPlaneAddress (.ok [eth0Interface, docker0Interface, loInterface]) sortThree =
        getControlPlaneAddress (.ok [loInterface, eth0Interface, docker0Interface]) sortThree ∧
      (∀ address, getControlPlaneAddress (.ok [loInterface, eth0Interface, docker0Interface])
          sortThree = .ok address ↔
        ∃ i ∈ [loInterface, eth0Interface, docker0Interface], interfaceAddress i = some address ∧
          ∀ j ∈ [loInterface, eth0Interface, docker0Interface], j ≠ i →
            (interfaceAddress j).isSome → preferredBefore i.name j.name) ∧
      (∀ err, getControlPlaneAddress (.ok [loInterface, eth0Interface, docker0Interface])
          sortThree = .error err ↔
        err = noAddressError ∧
          ∀ i ∈ [loInterface, eth0Interface, docker0Interface], interfaceAddress i = none) := by
  have hperm : [eth0Interface, docker0Interface, loInterface].Perm
      [loInterface, eth0Interface, docker0Interface] :=
    @List.perm_append_comm _ [eth0Interface, docker0Interface] [loInterface]
  have hsort : ∀ l, l.Perm [loInterface, eth0Interface, docker0Interface] →
      (sortThree interfaceLess l).Perm l ∧ SortedBy interfaceLess (sortThree interfaceLess l) :=
    fun l hl => ⟨(List.reverse_perm _).trans hl.symm,
      (by decide : SortedBy interfaceLess [docker0Interface, eth0Interface, loInterface])⟩
  exact ⟨by decide, hperm, hsort, getControlPlaneAddress_spec sortThree _ _ (by decide) hperm hsort⟩

/-- `docker0` is preferred but its addresses cannot be read; `eth0`'s first address is
link-local, so its second is chosen. -/
example : getControlPlaneAddress (.ok [loInterface, eth0Interface, docker0Interface]) sortThree =
    .ok "10.0.0.5" := rfl

/-- `eth0` while it is down, with a global IPv4 address. -/
def downEth0Interface : NetInterface := ⟨"eth0", 0, .ok [.ipNet [10, 0, 0, 5]]⟩

/-- **An eligible address on a down interface is not used.**  The only interface has an eligible
address, yet, being down, it is skipped and the function fails (a list of one interface is
sorted as it is). -/
theorem getControlPlaneAddress_down_interface_error :
    downEth0Interface.addrs = .ok [.ipNet [10, 0, 0, 5]] ∧
      eligibleAddress (.ipNet [10, 0, 0, 5]) = some "10.0.0.5" ∧
      getControlPlaneAddress (.ok [downEth0Interface]) (fun _ l => l) = .error noAddressError :=
  ⟨rfl, rfl, rfl⟩

end AgenticNetworking.Xds
