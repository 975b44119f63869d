import IPStack.Lib.Countdown
import IPStack.Lib.Reach
import IPStack.Ipv6.AddressRefresh

/-! How long addresses last, over all sequences of router advertisements and refreshes. A prefix
information has its lifetimes in seconds and in network byte order; an address counts minutes.
`getValidLifetime` is what the address is given: the bytes as the machine reads them, since the
byte order aspect names a class that does not exist and its advice applies to no lifetime. -/

namespace IPStack

open AddressMemory Transition

namespace OptionPrefixInformation

/-- The valid lifetime as the router means it. -/
def seconds (option : Bytes) : Nat := (option.netLong 4).toNat

def isInfinite (option : Bytes) : Prop := option.netLong 4 = BitVec.allOnes 32

/-- The number of refreshes an address lasts that is not renewed. -/
def refreshes (option : Bytes) : Nat :=
  Countdown.lasts Router.refreshInMinutes.toNat (getValidLifetime option).toNat

end OptionPrefixInformation

/-- The seconds between two refreshes. -/
def refreshSeconds : Nat := 60 * Router.refreshInMinutes.toNat

/-- The prefix information an address was made or last renewed from, and the time since. -/
structure Renewal where
  option : Bytes
  age : Nat
deriving DecidableEq

/-- Time passes in ticks, any number of them a second. -/
inductive LifetimeEvent (n : Nat) where
  | routerAdvertisement (fuel : Nat) (k : Fin n) (src : Ipv6Addr) (message : RouterAdvertisementMessage)
      (payloadlen : BitVec 32)
  | refreshIPv6Addresses (k : Fin n)
  | elapse (ticks : Nat)

/-- `sinceRefresh` and `renewal` are not kept by the program. An advertisement leaves no address
of its router that it does not renew. -/
structure LifetimeState (n : Nat) where
  router : Router n
  sinceRefresh : Fin n → Nat
  renewal : Fin n → Nat → Option Renewal

namespace LifetimeState

variable {n : Nat}

def start (r : Router n) (sinceRefresh : Fin n → Nat) : LifetimeState n := ⟨r, sinceRefresh, fun _ _ => none⟩

/-- The renewals after an advertisement: those it makes have age 0. -/
def renew (s : LifetimeState n) (k : Fin n) (renewed : Nat → Option Bytes) : Fin n → Nat → Option Renewal :=
  fun k' i => if k' = k then ((renewed i).map fun option => ⟨option, 0⟩).or (s.renewal k' i) else s.renewal k' i

def step (s : LifetimeState n) : LifetimeEvent n → LifetimeState n
  | .routerAdvertisement fuel k src message payloadlen =>
    match s.router.receiveRouterAdvertisement fuel k src message payloadlen with
    | some r => { s with router := r, renewal := s.renew k (s.router.renewedPrefixes fuel k src message payloadlen) }
    | none => s
  | .refreshIPv6Addresses k =>
    { s with router := s.router.refreshIPv6Addresses k, sinceRefresh := Function.update s.sinceRefresh k 0 }
  | .elapse ticks =>
    { s with
      sinceRefresh := fun k => s.sinceRefresh k + ticks
      renewal := fun k i => (s.renewal k i).map fun renewal => { renewal with age := renewal.age + ticks } }

/-- The refreshes of an interface come exactly every `IPV6_REFRESH_IN_MINUTES`, and the handling
of an advertisement returns. -/
def Timely (perSecond : Nat) (s : LifetimeState n) : LifetimeEvent n → Prop
  | .routerAdvertisement fuel k src message payloadlen =>
    (s.router.receiveRouterAdvertisement fuel k src message payloadlen).isSome
  | .refreshIPv6Addresses k => s.sinceRefresh k = refreshSeconds * perSecond
  | .elapse ticks => ∀ k, s.sinceRefresh k + ticks ≤ refreshSeconds * perSecond

/-- An address is not assigned for longer than its lifetime and one refresh period. -/
def InTime (perSecond : Nat) (s : LifetimeState n) : Prop :=
  ∀ k i e renewal, (s.router.memory k).addressAt i = some e → s.renewal k i = some renewal →
    OptionPrefixInformation.seconds renewal.option % 60 = 0 →
      renewal.age ≤ (OptionPrefixInformation.seconds renewal.option + refreshSeconds) * perSecond

/-- A refresh removes no address that does not expire, and no address earlier than one refresh
period before the end of its lifetime. -/
def NotEarly (perSecond : Nat) (s : LifetimeState n) : LifetimeEvent n → Prop
  | .refreshIPv6Addresses k =>
    ∀ k' i e, (s.router.memory k').addressAt i = some e →
      ((s.router.refreshIPv6Addresses k).memory k').addressAt i = none →
        e.validTimeMinutes ≠ AddressEntry.noTimeExpire ∧
        ∀ renewal, s.renewal k' i = some renewal →
          ¬OptionPrefixInformation.isInfinite renewal.option ∧
          (OptionPrefixInformation.seconds renewal.option % 60 = 0 →
            OptionPrefixInformation.seconds renewal.option * perSecond ≤ renewal.age + refreshSeconds * perSecond)
  | _ => True

end LifetimeState

/-- The refreshes that an address lasts take as long as its lifetime, and less than one refresh
period more. -/
def OptionPrefixInformation.LifetimeMet (option : Bytes) : Prop :=
  seconds option % 60 = 0 →
    seconds option ≤ refreshSeconds * refreshes option ∧ refreshSeconds * refreshes option ≤ seconds option + refreshSeconds

/-- An advertisement makes and renews no address from a prefix information with another lifetime. -/
def LifetimeState.LifetimesMet {n : Nat} (s : LifetimeState n) : LifetimeEvent n → Prop
  | .routerAdvertisement fuel k src message payloadlen =>
    ∀ i option, s.router.renewedPrefixes fuel k src message payloadlen i = some option →
      OptionPrefixInformation.LifetimeMet option
  | _ => True

variable {n perSecond since : Nat} {s : LifetimeState n} {k : Fin n} {i : Nat} {option : Bytes} {renewal : Renewal}
  {e e' : AddressEntry}

open OptionPrefixInformation

instance (option : Bytes) : Decidable (OptionPrefixInformation.LifetimeMet option) :=
  inferInstanceAs (Decidable (_ → _))

instance {n : Nat} (perSecond : Nat) (s : LifetimeState n) : (event : LifetimeEvent n) →
    Decidable (s.Timely perSecond event)
  | .routerAdvertisement .. => inferInstanceAs (Decidable (_ = true))
  | .refreshIPv6Addresses .. => inferInstanceAs (Decidable (_ = _))
  | .elapse .. => inferInstanceAs (Decidable (∀ _, _ ≤ _))

/-! ### An address that is not renewed -/

/-- What is left of the lifetime an address was given. -/
structure Renewal.Counts (perSecond : Nat) (renewal : Renewal) (entry : AddressEntry) (since : Nat) : Prop where
  infinite : getValidLifetime renewal.option = AddressEntry.noTimeExpire →
    entry.validTimeMinutes = AddressEntry.noTimeExpire
  finite : getValidLifetime renewal.option ≠ AddressEntry.noTimeExpire →
    Countdown.Runs Router.refreshInMinutes.toNat (refreshSeconds * perSecond)
      (getValidLifetime renewal.option).toNat entry.validTimeMinutes.toNat renewal.age since

theorem isInfinite_iff : isInfinite option ↔ getValidLifetime option = AddressEntry.noTimeExpire :=
  Bytes.long_eq_allOnes.symm

/-- The infinite lifetime is no number of minutes. -/
theorem ne_noTimeExpire (minutes : seconds option % 60 = 0) :
    getValidLifetime option ≠ AddressEntry.noTimeExpire := by
  intro all
  have infinite : option.netLong 4 = BitVec.allOnes 32 := isInfinite_iff.mpr all
  rw [seconds, infinite] at minutes
  exact absurd minutes (by decide)

theorem AddressEntry.aged_none (ends : e.aged = none) :
    e.validTimeMinutes ≠ noTimeExpire ∧ e.validTimeMinutes ≤ Router.refreshInMinutes := by
  unfold aged at ends
  split_ifs at ends with fixed expired
  exact ⟨fixed, expired⟩

theorem AddressEntry.aged_some (left : e.aged = some e') :
    e.validTimeMinutes = noTimeExpire ∧ e' = e ∨
      e.validTimeMinutes ≠ noTimeExpire ∧ Router.refreshInMinutes < e.validTimeMinutes ∧
        e'.validTimeMinutes = e.validTimeMinutes - Router.refreshInMinutes := by
  unfold aged at left
  by_cases fixed : e.validTimeMinutes = noTimeExpire
  · rw [if_pos fixed] at left
    cases left
    exact .inl ⟨fixed, rfl⟩
  rw [if_neg fixed] at left
  by_cases expired : e.validTimeMinutes ≤ Router.refreshInMinutes
  · rw [if_pos expired] at left
    cases left
  · rw [if_neg expired] at left
    cases left
    exact .inr ⟨fixed, BitVec.not_le.mp expired, rfl⟩

namespace Renewal.Counts

theorem renewed (within : since ≤ refreshSeconds * perSecond) (given : e.validTimeMinutes = getValidLifetime option) :
    Counts perSecond ⟨option, 0⟩ e since := by
  refine ⟨fun infinite => given.trans infinite, fun _ => ?_⟩
  rw [given]
  exact .started within

theorem elapse (counts : renewal.Counts perSecond e since) (ticks : Nat) :
    Counts perSecond { renewal with age := renewal.age + ticks } e (since + ticks) :=
  ⟨counts.infinite, fun finite => (counts.finite finite).elapse ticks⟩

theorem aged (counts : renewal.Counts perSecond e (refreshSeconds * perSecond)) (left : e.aged = some e') :
    renewal.Counts perSecond e' 0 := by
  obtain ⟨fixed, rfl⟩ | ⟨loose, more, less⟩ := AddressEntry.aged_some left
  · refine ⟨fun _ => fixed, fun finite => ?_⟩
    -- a lifetime that is counted down is below the infinite one
    have below := (counts.finite finite).le
    rw [fixed] at below
    have largest : (getValidLifetime renewal.option).toNat < AddressEntry.noTimeExpire.toNat := by
      have different : (getValidLifetime renewal.option).toNat ≠ AddressEntry.noTimeExpire.toNat :=
        fun same => finite (BitVec.eq_of_toNat_eq same)
      have small := (getValidLifetime renewal.option).isLt
      have all : AddressEntry.noTimeExpire.toNat = 2 ^ 32 - 1 := rfl
      omega
    omega
  · refine ⟨fun infinite => absurd (counts.infinite infinite) loose, fun finite => ?_⟩
    have enough : Router.refreshInMinutes.toNat < e.validTimeMinutes.toNat := BitVec.lt_def.mp more
    rw [less, BitVec.toNat_sub_of_le (BitVec.le_of_lt more)]
    exact (counts.finite finite).cycle enough

/-- When a refresh removes an address, its last refresh is reached. -/
theorem ended (counts : renewal.Counts perSecond e (refreshSeconds * perSecond)) (ends : e.aged = none) :
    ¬isInfinite renewal.option ∧
      refreshSeconds * perSecond * refreshes renewal.option ≤ renewal.age + refreshSeconds * perSecond := by
  obtain ⟨loose, few⟩ := AddressEntry.aged_none ends
  have finite : getValidLifetime renewal.option ≠ AddressEntry.noTimeExpire :=
    fun infinite => loose (counts.infinite infinite)
  exact ⟨fun infinite => finite (isInfinite_iff.mp infinite),
    (counts.finite finite).le_age (by decide) (BitVec.le_def.mp few)⟩

theorem age_le (counts : renewal.Counts perSecond e since) (within : since ≤ refreshSeconds * perSecond)
    (finite : getValidLifetime renewal.option ≠ AddressEntry.noTimeExpire) :
    renewal.age ≤ refreshSeconds * perSecond * refreshes renewal.option :=
  (counts.finite finite).age_le (by decide) within

end Renewal.Counts

/-! ### Runs -/

/-- Every address counts down from a lifetime that is met. -/
structure LifetimeState.Counting (perSecond : Nat) (s : LifetimeState n) : Prop where
  within : ∀ k, s.sinceRefresh k ≤ refreshSeconds * perSecond
  counts : ∀ k i e renewal, (s.router.memory k).addressAt i = some e → s.renewal k i = some renewal →
    renewal.Counts perSecond e (s.sinceRefresh k)
  met : ∀ k i e renewal, (s.router.memory k).addressAt i = some e → s.renewal k i = some renewal →
    LifetimeMet renewal.option

namespace LifetimeState

theorem Counting.inTime (counting : s.Counting perSecond) : s.InTime perSecond := by
  intro k i e renewal here renewed minutes
  obtain ⟨-, most⟩ := counting.met k i e renewal here renewed minutes
  have age := (counting.counts k i e renewal here renewed).age_le (counting.within k) (ne_noTimeExpire minutes)
  calc renewal.age ≤ refreshSeconds * perSecond * refreshes renewal.option := age
    _ = refreshSeconds * refreshes renewal.option * perSecond := Nat.mul_right_comm ..
    _ ≤ (seconds renewal.option + refreshSeconds) * perSecond := Nat.mul_le_mul_right perSecond most

theorem counting_start {r : Router n} {sinceRefresh : Fin n → Nat}
    (within : ∀ k, sinceRefresh k ≤ refreshSeconds * perSecond) : (start r sinceRefresh).Counting perSecond :=
  ⟨within, nofun, nofun⟩

/-- An advertisement leaves an address as it was, with its renewal, or renews it. -/
theorem routerAdvertisement_address {fuel : Nat} {k' : Fin n} {src : Ipv6Addr} {message : RouterAdvertisementMessage}
    {payloadlen : BitVec 32} {r : Router n}
    (received : s.router.receiveRouterAdvertisement fuel k src message payloadlen = some r)
    (left : (r.memory k').addressAt i = some e)
    (logged : s.renew k (s.router.renewedPrefixes fuel k src message payloadlen) k' i = some renewal) :
    ((s.router.memory k').addressAt i = some e ∧ s.renewal k' i = some renewal) ∨
      ∃ option, s.router.renewedPrefixes fuel k src message payloadlen i = some option ∧ renewal = ⟨option, 0⟩ ∧
        e.validTimeMinutes = getValidLifetime option := by
  unfold renew at logged
  obtain ⟨kept, before⟩ | ⟨rfl, option, renewed, given⟩ := Router.receiveRouterAdvertisement_address received left
  · refine .inl ⟨before, ?_⟩
    split_ifs at logged with here
    · rwa [kept here, Option.map_none, Option.none_or] at logged
    · exact logged
  · rw [if_pos rfl, renewed] at logged
    cases logged
    exact .inr ⟨option, renewed, rfl, given⟩

theorem Counting.routerAdvertisement (counting : s.Counting perSecond) {fuel : Nat} {src : Ipv6Addr}
    {message : RouterAdvertisementMessage} {payloadlen : BitVec 32}
    (met : s.LifetimesMet (.routerAdvertisement fuel k src message payloadlen)) :
    (s.step (.routerAdvertisement fuel k src message payloadlen)).Counting perSecond := by
  dsimp only [step]
  cases received : s.router.receiveRouterAdvertisement fuel k src message payloadlen with
  | none => exact counting
  | some r =>
    refine ⟨counting.within, fun k' i e renewal left logged => ?_, fun k' i e renewal left logged => ?_⟩
    · obtain ⟨before, kept⟩ | ⟨option, -, rfl, given⟩ := routerAdvertisement_address received left logged
      · exact counting.counts k' i e renewal before kept
      · exact .renewed (counting.within k') given
    · obtain ⟨before, kept⟩ | ⟨option, renewed, rfl, -⟩ := routerAdvertisement_address received left logged
      · exact counting.met k' i e renewal before kept
      · exact met i option renewed

theorem Counting.refresh (counting : s.Counting perSecond) (timely : s.Timely perSecond (.refreshIPv6Addresses k)) :
    (s.step (.refreshIPv6Addresses k)).Counting perSecond := by
  have due : s.sinceRefresh k = refreshSeconds * perSecond := timely
  refine ⟨fun k' => ?_, fun k' i e renewal left logged => ?_, fun k' i e renewal left logged => ?_⟩
  · dsimp only [step]
    by_cases here : k' = k
    · rw [here, Function.update_self]
      exact Nat.zero_le _
    · rw [Function.update_of_ne here]
      exact counting.within k'
  · dsimp only [step] at left logged ⊢
    by_cases here : k' = k
    · subst here
      rw [Router.addressAt_refreshIPv6Addresses] at left
      obtain ⟨old, before, aged⟩ := Option.bind_eq_some_iff.mp left
      have counts := counting.counts k' i old renewal before logged
      rw [due] at counts
      rw [Function.update_self]
      exact counts.aged aged
    · rw [Router.memory_refreshIPv6Addresses_other here] at left
      rw [Function.update_of_ne here]
      exact counting.counts k' i e renewal left logged
  · dsimp only [step] at left logged
    by_cases here : k' = k
    · subst here
      rw [Router.addressAt_refreshIPv6Addresses] at left
      obtain ⟨old, before, -⟩ := Option.bind_eq_some_iff.mp left
      exact counting.met k' i old renewal before logged
    · rw [Router.memory_refreshIPv6Addresses_other here] at left
      exact counting.met k' i e renewal left logged

theorem Counting.elapse (counting : s.Counting perSecond) {ticks : Nat} (timely : s.Timely perSecond (.elapse ticks)) :
    (s.step (.elapse ticks)).Counting perSecond := by
  refine ⟨timely, fun k i e renewal here logged => ?_, fun k i e renewal here logged => ?_⟩
  · obtain ⟨before, kept, rfl⟩ := Option.map_eq_some_iff.mp logged
    exact (counting.counts k i e before here kept).elapse ticks
  · obtain ⟨before, kept, rfl⟩ := Option.map_eq_some_iff.mp logged
    exact counting.met k i e before here kept

theorem Counting.notEarly (counting : s.Counting perSecond) (timely : s.Timely perSecond (.refreshIPv6Addresses k)) :
    s.NotEarly perSecond (.refreshIPv6Addresses k) := by
  intro k' i e before removed
  by_cases here : k' = k
  case neg =>
    rw [Router.memory_refreshIPv6Addresses_other here, before] at removed
    cases removed
  subst here
  rw [Router.addressAt_refreshIPv6Addresses, before, Option.bind_some] at removed
  refine ⟨(AddressEntry.aged_none removed).1, fun renewal logged => ?_⟩
  have due : s.sinceRefresh k' = refreshSeconds * perSecond := timely
  have counts := counting.counts k' i e renewal before logged
  rw [due] at counts
  obtain ⟨finite, reached⟩ := counts.ended removed
  refine ⟨finite, fun minutes => ?_⟩
  obtain ⟨least, -⟩ := counting.met k' i e renewal before logged minutes
  calc seconds renewal.option * perSecond ≤ refreshSeconds * refreshes renewal.option * perSecond :=
        Nat.mul_le_mul_right perSecond least
    _ = refreshSeconds * perSecond * refreshes renewal.option := Nat.mul_right_comm ..
    _ ≤ renewal.age + refreshSeconds * perSecond := reached

theorem Counting.step (counting : s.Counting perSecond) (event : LifetimeEvent n) (timely : s.Timely perSecond event)
    (met : s.LifetimesMet event) : s.NotEarly perSecond event ∧ (s.step event).Counting perSecond := by
  cases event with
  | routerAdvertisement fuel k src message payloadlen => exact ⟨trivial, counting.routerAdvertisement met⟩
  | refreshIPv6Addresses k => exact ⟨counting.notEarly timely, counting.refresh timely⟩
  | elapse ticks => exact ⟨trivial, counting.elapse timely⟩

end LifetimeState

open LifetimeState in
/-- Addresses last as long as the lifetimes of their prefixes, to one refresh period, in every run
in which the lifetimes of the prefixes are met by the refreshes that the addresses last. -/
theorem lifetimes_run {n : Nat} (perSecond : Nat) (r : Router n) (sinceRefresh : Fin n → Nat)
    (within : ∀ k, sinceRefresh k ≤ refreshSeconds * perSecond) (events : List (LifetimeEvent n))
    (follows : Follows step (fun s event => s.Timely perSecond event ∧ s.LifetimesMet event) (start r sinceRefresh) events) :
    Follows step (NotEarly perSecond) (start r sinceRefresh) events ∧
      ∀ l, l <+: events → (l.foldl step (start r sinceRefresh)).InTime perSecond := by
  obtain ⟨notEarly, counting⟩ := follows.forall_prefix_and
    (fun s event counting both => counting.step event both.1 both.2) (counting_start within)
  exact ⟨notEarly, fun l shorter => (counting l shorter).inTime⟩

namespace LifetimeState.Sample

/-- One prefix with one lifetime. -/
def advertising (lifetime : Bytes) : RouterAdvertisementMessage :=
  { onePrefix with options := [3, 4, 64, 0xC0] ++ lifetime ++ lifetime ++ [0, 0, 0, 0] ++ examplePrefix.toList }

def advertised (lifetime : Bytes) : LifetimeEvent 1 :=
  .routerAdvertisement 2 ⟨0, Nat.one_pos⟩ exampleRouterAddress (advertising lifetime) 48

def refreshed : LifetimeEvent 1 := .refreshIPv6Addresses ⟨0, Nat.one_pos⟩

/-- The refreshes just begin. -/
def noneSince : Fin 1 → Nat := fun _ => 0

/-- A minute, then five without another advertisement. -/
def oneMinute : List (LifetimeEvent 1) := [advertised [0, 0, 0, 60], .elapse 180, refreshed, .elapse 120]

def expired : List (LifetimeEvent 1) := [advertised [0, 0, 0, 0], .elapse 180, refreshed]

theorem noneSince_within (k : Fin 1) : noneSince k ≤ refreshSeconds * 1 := Nat.zero_le _

/-- After the five minutes the address is there. -/
theorem oneMinute_assigned :
    ((oneMinute.foldl step (start oneFreeSlot noneSince)).router.memory ⟨0, Nat.one_pos⟩ |>.addressAt 1).isSome ∧
      (oneMinute.foldl step (start oneFreeSlot noneSince)).renewal ⟨0, Nat.one_pos⟩ 1 =
        some ⟨(advertising [0, 0, 0, 60]).options, 300⟩ := by decide +kernel

theorem expired_met (s : LifetimeState 1) : s.LifetimesMet (advertised [0, 0, 0, 0]) := by
  intro i option logged
  have member := Router.renewedPrefixes_mem logged
  have all : ∀ option ∈ NDPRouterAdvertisement.prefixInformations 2
      (getPrefixOption (advertising [0, 0, 0, 0]).options (48 - RouterAdvertisementMessage.size))
      (48 - RouterAdvertisementMessage.size), LifetimeMet option := by decide +kernel
  exact all option member

end LifetimeState.Sample

open LifetimeState Sample in
/-- An address whose prefix is advertised for a minute is assigned for centuries. -/
theorem oneMinute_outlived : ∃ (r : Router 1) (sinceRefresh : Fin 1 → Nat) (events : List (LifetimeEvent 1)),
    (∀ k, sinceRefresh k ≤ refreshSeconds * 1) ∧ Follows step (Timely 1) (start r sinceRefresh) events ∧
      ¬(Follows step (NotEarly 1) (start r sinceRefresh) events ∧
        ∀ l, l <+: events → (l.foldl step (start r sinceRefresh)).InTime 1) := by
  refine ⟨oneFreeSlot, noneSince, oneMinute, noneSince_within, by decide +kernel, fun both => ?_⟩
  obtain ⟨assigned, renewal⟩ := oneMinute_assigned
  obtain ⟨e, here⟩ := Option.isSome_iff_exists.mp assigned
  exact absurd (both.2 oneMinute List.prefix_rfl _ 1 e _ here renewal (by decide +kernel)) (by decide +kernel)

open LifetimeState Sample in
theorem lifetimes_run_expired :
    Follows step (NotEarly 1) (start oneFreeSlot noneSince) expired ∧
      ∀ l, l <+: expired → (l.foldl step (start oneFreeSlot noneSince)).InTime 1 :=
  lifetimes_run 1 oneFreeSlot noneSince noneSince_within expired
    ⟨⟨by decide +kernel, expired_met _⟩, ⟨by decide +kernel, trivial⟩, ⟨by decide +kernel, trivial⟩, trivial⟩

end IPStack
