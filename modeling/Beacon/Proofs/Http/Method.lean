import Beacon.Http.Method
import Beacon.Proofs.Http.Target

/-!
# Names of methods

The octets of a token are visible ASCII, so a method is found by its name, and shows the name that
it is found by.
-/

namespace Beacon.Http

theorem visible_of_isTokenOctet {octet : UInt8} (h : isTokenOctet octet = true) :
    0x21 ≤ octet.toNat ∧ octet.toNat ≤ 0x7E := by
  simp only [isTokenOctet, UInt8.le_iff_toNat_le, ← UInt8.toNat_inj, UInt8.reduceToNat,
    List.contains_cons, List.contains_nil, Bool.or_eq_true, Bool.and_eq_true, decide_eq_true_eq,
    beq_iff_eq, Bool.or_false] at h
  omega

namespace Method

theorem isTokenOctet_of_mem (method : Method) :
    ∀ octet ∈ method.octets, isTokenOctet octet = true := by
  have htoken := method.token
  rw [isToken, Bool.and_eq_true, List.all_eq_true] at htoken
  exact htoken.2

theorem visible_of_mem (method : Method) :
    ∀ octet ∈ method.octets, 0x21 ≤ octet.toNat ∧ octet.toNat ≤ 0x7E :=
  fun octet hmem => visible_of_isTokenOctet (method.isTokenOctet_of_mem octet hmem)

/-- The name of a method is spelled by its octets. -/
theorem octets_name (method : Method) : Utf8.octets method.name = method.octets :=
  octets_asciiText fun octet hmem => (method.visible_of_mem octet hmem).2.trans (by decide)

/-- A method is found by its name. -/
theorem ofName?_name (method : Method) : ofName? method.name = some method := by
  rw [ofName?, octets_name]
  exact dif_pos method.token

theorem octets_of_ofName? {name : String} {method : Method} (h : ofName? name = some method) :
    method.octets = Utf8.octets name := by
  unfold ofName? ofOctets? at h
  split at h
  · cases h
    rfl
  · cases h

/-- A method shows its name verbatim. -/
theorem name_of_ofName? {name : String} {method : Method} (h : ofName? name = some method) :
    method.name = name := by
  rw [← Utf8.octets_inj, octets_name, octets_of_ofName? h]

/-- GET is told from other methods by case as well. -/
theorem eq_get_iff {name : String} {method : Method} (h : ofName? name = some method) :
    method = .get ↔ name = "GET" := by
  have hoctets := octets_of_ofName? h
  constructor
  · rintro rfl
    exact Utf8.octets_inj.mp (hoctets.symm.trans (by decide))
  · rintro rfl
    obtain ⟨octets, token⟩ := method
    simp only [get, mk.injEq]
    exact hoctets

end Method

end Beacon.Http
