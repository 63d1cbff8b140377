import Linkerd.Go.Basic
import Linkerd.Go.Strconv

/-!
# Authorities: `getHostAndPort`, `parseK8sServiceName` and `profileID`

A destination request names its target by an authority `host[:port]`.  The server splits it with
`getHostAndPort`, destructures a service host name `[instance.]name.namespace.svc.<cluster domain>`
with `parseK8sServiceName` (which tests the suffix with `hasSuffix`), and names the profile a
stream subscribes to with `profileID`.

* `hasSuffix_iff` — `hasSuffix` decides whether a list of labels ends in another, whatever their
  lengths, from `hasSuffix_append` and `exists_append_of_hasSuffix`;
* `getHostAndPort_eq_ok_iff` — `getHostAndPort` accepts exactly one-colon-at-most authorities whose
  port is a signed decimal in `[1, 65535]`, and returns the host and that port;
* `authority_roundTrip` — formatting a service name with `serviceFqdn` and parsing it back returns
  the same service, instance and port, and `profileID` of it always succeeds;
* `parseK8sServiceName_eq_ok` — what a successful parse says about the host name: it is the
  formatted name, with one more leading label when there is an instance, which may be empty.
-/

namespace Linkerd
namespace Destination

open Go

/-- A port, `watcher.Port` (a `uint32`). -/
abbrev Port := UInt32

/-- A service, `watcher.ServiceID`. -/
structure ServiceID where
  ns : List Char
  name : List Char
  deriving DecidableEq, Repr

/-- A service profile's key, `watcher.ProfileID`. -/
structure ProfileID where
  ns : List Char
  name : List Char
  deriving DecidableEq, Repr

/-- A client's context token, `contextToken`: `{"ns": ..., "nodeName": ...}`, both optional. -/
structure ContextToken where
  ns : List Char := []
  nodeName : List Char := []
  deriving DecidableEq, Repr

/-- The label every service host name has before the cluster domain. -/
def svc : List Char := ['s', 'v', 'c']

/-- `fmt.Sprintf("%s.%s.svc.%s", name, namespace, clusterDomain)`: a service's fully qualified
name, as `GetProfile` and `profileID` print it. -/
def serviceFqdn (name ns clusterDomain : List Char) : List Char :=
  name ++ '.' :: ns ++ '.' :: svc ++ '.' :: clusterDomain

/-- `getHostAndPort`: splits `host[:port]` on `:`; the port defaults to 80 and must otherwise
read with `Atoi` as a value in `[1, 65535]`. -/
def getHostAndPort (authority : List Char) : Except GoError (List Char × Port) :=
  match authority.splitOn ':' with
  | [host] => .ok (host, 80)
  | [host, portText] =>
    match atoi portText with
    | .ok port =>
      if port ≤ 0 ∨ 65535 < port then .error (.plain ("invalid port ".toList ++ portText))
      else .ok (host, UInt32.ofNat port.toNat)
    | .error _ => .error (.plain ("invalid port ".toList ++ portText))
  | _ => .error (.plain ("invalid destination ".toList ++ authority))

/-- The `range` loop of `hasSuffix`: every element equals the one at its index in `suffix`. -/
def allEqual : List (List Char) → List (List Char) → Bool
  | s :: ss, t :: ts => if s ≠ t then false else allEqual ss ts
  | _, _ => true

/-- `hasSuffix`: whether the last `len(suffix)` elements of `slice` are `suffix`. -/
def hasSuffix (slice suffix : List (List Char)) : Bool :=
  if slice.length < suffix.length then false
  else allEqual (slice.drop (slice.length - suffix.length)) suffix

/-- `parseK8sServiceName`: `name.namespace.svc.<clusterDomain>` gives the service and an empty
instance ID, `instance.name.namespace.svc.<clusterDomain>` the service and the instance ID. -/
def parseK8sServiceName (fqdn clusterDomain : List Char) :
    Except GoError (ServiceID × List Char) :=
  let labels := fqdn.splitOn '.'
  let suffix := svc :: clusterDomain.splitOn '.'
  if !hasSuffix labels suffix then
    .error (.plain ("name ".toList ++ fqdn ++ " does not match cluster domain ".toList ++
      clusterDomain))
  else if labels.length = 2 + suffix.length then
    .ok ({ name := labels.getD 0 [], ns := labels.getD 1 [] }, [])
  else if labels.length = 3 + suffix.length then
    .ok ({ name := labels.getD 1 [], ns := labels.getD 2 [] }, labels.getD 0 [])
  else .error (.plain ("invalid k8s service ".toList ++ fqdn))

/-- `profileID`: the profile of the service an authority names, in the token's namespace when
the token gives one and in the service's own otherwise. -/
def profileID (authority : List Char) (ctxToken : ContextToken) (clusterDomain : List Char) :
    Except GoError ProfileID :=
  match getHostAndPort authority with
  | .error err => .error (.plain ("invalid authority: ".toList ++ err.text))
  | .ok (host, _) =>
    match parseK8sServiceName host clusterDomain with
    | .error err => .error (.plain ("invalid k8s service name: ".toList ++ err.text))
    | .ok (service, _) =>
      let id : ProfileID :=
        { name := serviceFqdn service.name service.ns clusterDomain,
          ns := service.ns }
      .ok (if ctxToken.ns ≠ [] then { id with ns := ctxToken.ns } else id)

/-! ### `hasSuffix` -/

theorem allEqual_iff : ∀ {xs ys : List (List Char)}, xs.length = ys.length →
    (allEqual xs ys = true ↔ xs = ys)
  | [], [], _ => by simp [allEqual]
  | x :: xs, y :: ys, h => by
    have ih := @allEqual_iff xs ys (by simpa using h)
    by_cases hxy : x = y <;> simp [allEqual, hxy, ih]

/-- A list that ends in `suffix` passes `hasSuffix`. -/
theorem hasSuffix_append (p suffix : List (List Char)) : hasSuffix (p ++ suffix) suffix = true := by
  unfold hasSuffix
  rw [if_neg (by simp), allEqual_iff (by simp)]
  simp

/-- A list that passes `hasSuffix` ends in `suffix`: its first `len(slice) - len(suffix)` elements
come before it. -/
theorem exists_append_of_hasSuffix {slice suffix : List (List Char)}
    (h : hasSuffix slice suffix = true) : ∃ p, slice = p ++ suffix := by
  unfold hasSuffix at h
  split at h
  · cases h
  · rw [allEqual_iff (by simp; omega)] at h
    exact ⟨_, (List.take_append_drop (slice.length - suffix.length) slice).symm.trans (by rw [h])⟩

/-- `hasSuffix` holds exactly when `suffix` is a suffix of `slice`. -/
theorem hasSuffix_iff {slice suffix : List (List Char)} :
    hasSuffix slice suffix = true ↔ ∃ p, slice = p ++ suffix :=
  ⟨exists_append_of_hasSuffix, fun ⟨p, h⟩ => h ▸ hasSuffix_append p suffix⟩

/-- An empty suffix, a suffix longer than the list, and repeated labels. -/
example : hasSuffix ["a".toList, "b".toList] [] = true ∧
    hasSuffix ["b".toList] ["a".toList, "b".toList] = false ∧
    hasSuffix ["svc".toList, "svc".toList] ["svc".toList] = true := by
  decide

/-! ### Labels of formatted names -/

theorem svc_not_mem : '.' ∉ svc ∧ ':' ∉ svc := by decide

/-- The labels of a formatted service name. -/
theorem splitOn_serviceFqdn {s n : List Char} (cd : List Char) (hs : '.' ∉ s) (hn : '.' ∉ n) :
    (serviceFqdn s n cd).splitOn '.' = s :: n :: svc :: cd.splitOn '.' := by
  simp only [serviceFqdn, List.append_assoc, List.cons_append]
  rw [splitOn_append_cons hs, splitOn_append_cons hn, splitOn_append_cons svc_not_mem.1]

theorem colon_not_mem_serviceFqdn {s n cd : List Char} (hs : ':' ∉ s) (hn : ':' ∉ n)
    (hcd : ':' ∉ cd) : ':' ∉ serviceFqdn s n cd := by
  simp [serviceFqdn, svc, hs, hn, hcd]

/-- Host names with the service's labels in front of the suffix parse as that service. -/
theorem parseK8sServiceName_of_splitOn {h cd s n : List Char}
    (hl : h.splitOn '.' = s :: n :: svc :: cd.splitOn '.') :
    parseK8sServiceName h cd = .ok ({ name := s, ns := n }, []) := by
  have hsuf : hasSuffix (h.splitOn '.') (svc :: cd.splitOn '.') = true :=
    hl ▸ hasSuffix_append [s, n] _
  simp only [parseK8sServiceName, hsuf, Bool.not_true, Bool.false_eq_true, if_false]
  rw [if_pos (by simp [hl]; omega), hl]
  rfl

/-- Host names with an instance label in front of the service's parse with that instance ID. -/
theorem parseK8sServiceName_of_splitOn_instance {h cd i s n : List Char}
    (hl : h.splitOn '.' = i :: s :: n :: svc :: cd.splitOn '.') :
    parseK8sServiceName h cd = .ok ({ name := s, ns := n }, i) := by
  have hsuf : hasSuffix (h.splitOn '.') (svc :: cd.splitOn '.') = true :=
    hl ▸ hasSuffix_append [i, s, n] _
  simp only [parseK8sServiceName, hsuf, Bool.not_true, Bool.false_eq_true, if_false]
  rw [if_neg (by simp [hl]; omega), if_pos (by simp [hl]; omega), hl]
  rfl

/-! ### `getHostAndPort` -/

/-- The port text `getHostAndPort` accepts: a signed decimal with a value in `[1, 65535]`. -/
def PortText (t : List Char) (v : Int) : Prop :=
  SignedDecimal t v ∧ 1 ≤ v ∧ v ≤ 65535

/-- The authorities `getHostAndPort` accepts, with the host and the port value it returns: no `:`
and port 80, or exactly one `:` followed by a port text. -/
def HostPortText (authority host : List Char) (v : Int) : Prop :=
  (':' ∉ authority ∧ host = authority ∧ v = 80) ∨
    ∃ t, authority = host ++ ':' :: t ∧ ':' ∉ host ∧ ':' ∉ t ∧ PortText t v

theorem portText_iff {t : List Char} {v : Int} :
    PortText t v ↔ atoi t = .ok v ∧ 1 ≤ v ∧ v ≤ 65535 := by
  rw [atoi_eq_ok_iff, PortText, IntText]
  constructor
  · rintro ⟨h, h1, h2⟩; exact ⟨⟨h, by omega, by omega⟩, h1, h2⟩
  · rintro ⟨⟨h, -⟩, h1, h2⟩; exact ⟨h, h1, h2⟩

/-- A port value in `[1, 65535]` converts to `watcher.Port` without loss. -/
theorem port_toNat_ofNat {v : Int} (h0 : 0 ≤ v) (h1 : v ≤ 65535) :
    ((UInt32.ofNat v.toNat).toNat : Int) = v := by
  rw [UInt32.toNat_ofNat_of_lt (by simp [UInt32.size]; omega)]
  omega

theorem port_eq_ofNat {port : Port} {v : Int} (h0 : 0 ≤ v) (h1 : v ≤ 65535)
    (hv : (port.toNat : Int) = v) : UInt32.ofNat v.toNat = port :=
  UInt32.toNat.inj (by have := port_toNat_ofNat h0 h1; omega)

theorem getHostAndPort_of_hostPortText {authority host : List Char} {v : Int}
    (h : HostPortText authority host v) :
    getHostAndPort authority = .ok (host, UInt32.ofNat v.toNat) := by
  unfold getHostAndPort
  rcases h with ⟨hc, rfl, rfl⟩ | ⟨t, rfl, hh, ht, hport⟩
  · rw [splitOn_of_not_mem hc]; rfl
  · obtain ⟨hatoi, h1, h2⟩ := portText_iff.mp hport
    rw [splitOn_append_cons hh, splitOn_of_not_mem ht]
    simp only [hatoi]
    rw [if_neg (by omega)]

theorem hostPortText_of_getHostAndPort {authority host : List Char} {port : Port}
    (h : getHostAndPort authority = .ok (host, port)) :
    ∃ v : Int, HostPortText authority host v ∧ (port.toNat : Int) = v := by
  unfold getHostAndPort at h
  match hs : authority.splitOn ':', h with
  | [a], h =>
    obtain ⟨hc, rfl⟩ := splitOn_eq_singleton_iff.mp hs
    obtain ⟨rfl, rfl⟩ := Prod.mk.inj (Except.ok.inj h)
    exact ⟨80, .inl ⟨hc, rfl, rfl⟩, rfl⟩
  | [a, b], h =>
    obtain ⟨rfl, ha, hb⟩ := splitOn_eq_pair_iff.mp hs
    simp only at h
    split at h
    · rename_i w hw
      split at h
      · cases h
      · obtain ⟨rfl, rfl⟩ := Prod.mk.inj (Except.ok.inj h)
        exact ⟨w, .inr ⟨b, rfl, ha, hb, portText_iff.mpr ⟨hw, by omega, by omega⟩⟩,
          port_toNat_ofNat (by omega) (by omega)⟩
    · cases h
  | [], h | _ :: _ :: _ :: _, h => cases h

/-- **`getHostAndPort` accepts exactly its grammar**: at most one `:`, and after it a signed
decimal in `[1, 65535]`; it returns the text before the `:` and that value, or the whole
authority and 80, and the value survives the conversion to `watcher.Port`. -/
theorem getHostAndPort_eq_ok_iff (authority host : List Char) (port : Port) :
    getHostAndPort authority = .ok (host, port) ↔
      ∃ v : Int, HostPortText authority host v ∧ (port.toNat : Int) = v := by
  constructor
  · exact hostPortText_of_getHostAndPort
  · rintro ⟨v, h, hv⟩
    have hb : 0 ≤ v ∧ v ≤ 65535 := by
      rcases h with ⟨-, -, rfl⟩ | ⟨t, -, -, -, -, h1, h2⟩ <;> omega
    rw [getHostAndPort_of_hostPortText h, port_eq_ofNat hb.1 hb.2 hv]

/-! ### Round trips -/

theorem colon_not_mem_itoa (p : Nat) : ':' ∉ itoa p :=
  fun h => by simpa [Char.isDigit] using itoa_isDigit p ':' h

/-- A service's name, with or without a port, splits into that name and the port (80 without). -/
theorem getHostAndPort_serviceFqdn {s n cd : List Char} (hs : ':' ∉ s) (hn : ':' ∉ n)
    (hcd : ':' ∉ cd) {p : Nat} (hp : 1 ≤ p ∧ p ≤ 65535) :
    getHostAndPort (serviceFqdn s n cd ++ ':' :: itoa p) =
        .ok (serviceFqdn s n cd, UInt32.ofNat p) ∧
      getHostAndPort (serviceFqdn s n cd) = .ok (serviceFqdn s n cd, 80) := by
  have hcolon := colon_not_mem_serviceFqdn hs hn hcd
  refine ⟨?_, getHostAndPort_of_hostPortText (.inl ⟨hcolon, rfl, rfl⟩)⟩
  simpa using getHostAndPort_of_hostPortText (v := p) (.inr ⟨itoa p, rfl, hcolon,
    colon_not_mem_itoa p, portText_iff.mpr ⟨atoi_itoa (by omega), by omega, by omega⟩⟩)

/-- `profileID` of a service's own name is that name, in the token's namespace when the token
gives one and in the service's otherwise. -/
theorem profileID_serviceFqdn {s n cd : List Char} (tok : ContextToken)
    (hs : '.' ∉ s ∧ ':' ∉ s) (hn : '.' ∉ n ∧ ':' ∉ n) (hcd : ':' ∉ cd) :
    profileID (serviceFqdn s n cd) tok cd =
      .ok { name := serviceFqdn s n cd, ns := if tok.ns ≠ [] then tok.ns else n } := by
  simp only [profileID, (getHostAndPort_serviceFqdn (p := 80) hs.2 hn.2 hcd (by decide)).2,
    parseK8sServiceName_of_splitOn (splitOn_serviceFqdn cd hs.1 hn.1)]
  split_ifs <;> rfl

/-- **Formatting then parsing an authority gives back what was formatted.**  For labels without
`.` or `:`, a cluster domain without `:` and a port in `[1, 65535]`: `getHostAndPort` returns the
service name and the port (80 when there is none), `parseK8sServiceName` returns the service with
an empty instance ID or with the instance ID in front, and `profileID` succeeds, in the
token's namespace when the token gives one. -/
theorem authority_roundTrip {s n cd i : List Char} {p : Nat} (tok : ContextToken)
    (hs : '.' ∉ s ∧ ':' ∉ s) (hn : '.' ∉ n ∧ ':' ∉ n) (hcd : ':' ∉ cd) (hi : '.' ∉ i ∧ ':' ∉ i)
    (hp : 1 ≤ p ∧ p ≤ 65535) :
    getHostAndPort (serviceFqdn s n cd ++ ':' :: itoa p) =
        .ok (serviceFqdn s n cd, UInt32.ofNat p) ∧
      getHostAndPort (serviceFqdn s n cd) = .ok (serviceFqdn s n cd, 80) ∧
      parseK8sServiceName (serviceFqdn s n cd) cd = .ok ({ name := s, ns := n }, []) ∧
      parseK8sServiceName (i ++ '.' :: serviceFqdn s n cd) cd = .ok ({ name := s, ns := n }, i) ∧
      profileID (serviceFqdn s n cd) tok cd =
        .ok { name := serviceFqdn s n cd, ns := if tok.ns ≠ [] then tok.ns else n } := by
  have hlabels := splitOn_serviceFqdn cd hs.1 hn.1
  obtain ⟨hport, hhost⟩ := getHostAndPort_serviceFqdn hs.2 hn.2 hcd hp
  exact ⟨hport, hhost, parseK8sServiceName_of_splitOn hlabels,
    parseK8sServiceName_of_splitOn_instance (by rw [splitOn_append_cons hi.1, hlabels]),
    profileID_serviceFqdn tok hs hn hcd⟩

theorem authority_roundTrip_emojivoto :
    ('.' ∉ "web".toList ∧ ':' ∉ "web".toList) ∧ ('.' ∉ "emojivoto".toList ∧ ':' ∉ "emojivoto".toList) ∧
      ':' ∉ "cluster.local".toList ∧ ('.' ∉ "web-0".toList ∧ ':' ∉ "web-0".toList) ∧
      (1 ≤ 8080 ∧ 8080 ≤ 65535) ∧
      getHostAndPort (serviceFqdn "web".toList "emojivoto".toList "cluster.local".toList ++
          ':' :: itoa 8080) =
        .ok (serviceFqdn "web".toList "emojivoto".toList "cluster.local".toList, UInt32.ofNat 8080) :=
  ⟨by decide, by decide, by decide, by decide, by decide,
    (authority_roundTrip (i := "web-0".toList) { ns := "client".toList } (by decide) (by decide)
      (by decide) (by decide) (by decide)).1⟩

/-- The labels of a host name that `parseK8sServiceName` accepts. -/
theorem splitOn_of_parseK8sServiceName_eq_ok {h cd s n i : List Char}
    (hp : parseK8sServiceName h cd = .ok ({ name := s, ns := n }, i)) :
    (i = [] ∧ h.splitOn '.' = s :: n :: svc :: cd.splitOn '.') ∨
      h.splitOn '.' = i :: s :: n :: svc :: cd.splitOn '.' := by
  unfold parseK8sServiceName at hp
  simp only at hp
  split at hp
  · cases hp
  rename_i hsuf
  obtain ⟨pre, hpre⟩ := exists_append_of_hasSuffix (by simpa using hsuf)
  rw [hpre] at hp
  split at hp
  · rename_i h2
    have hlen : pre.length = 2 := by simp at h2; omega
    obtain ⟨a, b, rfl⟩ := List.length_eq_two.mp hlen
    simp only [Except.ok.injEq, Prod.mk.injEq, ServiceID.mk.injEq] at hp
    obtain ⟨⟨rfl, rfl⟩, rfl⟩ := hp
    exact .inl ⟨rfl, hpre⟩
  split at hp
  · rename_i h3
    have hlen : pre.length = 3 := by simp at h3; omega
    obtain ⟨a, b, c, rfl⟩ := List.length_eq_three.mp hlen
    simp only [Except.ok.injEq, Prod.mk.injEq, ServiceID.mk.injEq] at hp
    obtain ⟨⟨rfl, rfl⟩, rfl⟩ := hp
    exact .inr hpre
  · cases hp

/-- A name with an empty instance label parses like the plain service name, so the parse does not
determine the host name: `.web.ns.svc.cluster.local` gives the service `web.ns` and an empty
instance ID. -/
theorem parseK8sServiceName_empty_instance_label :
    parseK8sServiceName ".web.ns.svc.cluster.local".toList "cluster.local".toList =
        .ok ({ name := "web".toList, ns := "ns".toList }, []) ∧
      ".web.ns.svc.cluster.local".toList ≠
        serviceFqdn "web".toList "ns".toList "cluster.local".toList :=
  ⟨by rfl, by decide⟩

/-- **What a successful parse says about the host name.**  The service name, namespace and
instance ID contain no `.`; the host is the formatted service name, or the formatted name with
the instance label in front (an empty one included, `.name.namespace.svc.<domain>`, which gives
an empty instance ID); and the instance ID is non-empty exactly for names with three labels
before `svc` whose first label is non-empty. -/
theorem parseK8sServiceName_eq_ok {h cd s n i : List Char}
    (hp : parseK8sServiceName h cd = .ok ({ name := s, ns := n }, i)) :
    '.' ∉ s ∧ '.' ∉ n ∧ '.' ∉ i ∧
      ((i = [] ∧ h = serviceFqdn s n cd) ∨ h = i ++ '.' :: serviceFqdn s n cd) ∧
      (i ≠ [] ↔ ∃ j, j ≠ [] ∧ '.' ∉ j ∧ h = j ++ '.' :: serviceFqdn s n cd) := by
  have hlabels := splitOn_of_parseK8sServiceName_eq_ok hp
  have hpiece : ∀ x, x ∈ h.splitOn '.' → '.' ∉ x := fun x hx => not_mem_of_mem_splitOn hx
  have hs : '.' ∉ s := hpiece s (by rcases hlabels with ⟨-, hl⟩ | hl <;> simp [hl])
  have hn : '.' ∉ n := hpiece n (by rcases hlabels with ⟨-, hl⟩ | hl <;> simp [hl])
  have hi : '.' ∉ i := by
    rcases hlabels with ⟨rfl, -⟩ | hl
    · simp
    · exact hpiece i (by simp [hl])
  have hshape : (i = [] ∧ h = serviceFqdn s n cd) ∨ h = i ++ '.' :: serviceFqdn s n cd := by
    rcases hlabels with ⟨rfl, hl⟩ | hl
    · exact .inl ⟨rfl, eq_of_splitOn_eq (by rw [hl, splitOn_serviceFqdn cd hs hn])⟩
    · exact .inr (eq_of_splitOn_eq (by
        rw [hl, splitOn_append_cons hi, splitOn_serviceFqdn cd hs hn]))
  refine ⟨hs, hn, hi, hshape, ?_, ?_⟩
  · intro hne
    rcases hshape with ⟨rfl, -⟩ | rfl
    · exact absurd rfl hne
    · exact ⟨i, hne, hi, rfl⟩
  · rintro ⟨j, hj, hjdot, rfl⟩
    have : parseK8sServiceName (j ++ '.' :: serviceFqdn s n cd) cd = .ok ({ name := s, ns := n }, j) :=
      parseK8sServiceName_of_splitOn_instance
        (by rw [splitOn_append_cons hjdot, splitOn_serviceFqdn cd hs hn])
    rw [hp] at this
    simp only [Except.ok.injEq, Prod.mk.injEq, true_and] at this
    exact this ▸ hj

theorem parseK8sServiceName_eq_ok_web :
    parseK8sServiceName "web-0.web.ns.svc.cluster.local".toList "cluster.local".toList =
        .ok ({ name := "web".toList, ns := "ns".toList }, "web-0".toList) ∧
      ('.' ∉ "web".toList ∧ '.' ∉ "ns".toList ∧ '.' ∉ "web-0".toList ∧
        (("web-0".toList = [] ∧ "web-0.web.ns.svc.cluster.local".toList =
            serviceFqdn "web".toList "ns".toList "cluster.local".toList) ∨
          "web-0.web.ns.svc.cluster.local".toList =
            "web-0".toList ++ '.' :: serviceFqdn "web".toList "ns".toList "cluster.local".toList) ∧
        ("web-0".toList ≠ [] ↔ ∃ j, j ≠ [] ∧ '.' ∉ j ∧ "web-0.web.ns.svc.cluster.local".toList =
          j ++ '.' :: serviceFqdn "web".toList "ns".toList "cluster.local".toList)) :=
  ⟨by rfl, parseK8sServiceName_eq_ok (by rfl)⟩

end Destination
end Linkerd
