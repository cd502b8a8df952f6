import UcosProxy.CgiSafety

/-!
# Addresses of the network page

A browser submits four addresses of digits and dots, each of which `check_ip` has
accepted as decimal. `net_cgi_interface` reads them again with `inet_addr`, to which a
leading zero means octal, and has three of the four results checked; what passes is
stored and taken over, the fourth with them. A request that no browser checked may hold
anything.

`inet_addr` is not part of the repository. All that is asked of it is how it reads a
text that `check_ip` accepts: part by part, decimal unless the part begins with a zero,
all ones when a part cannot be read. What it makes of an octal part with a digit above
seven is left open, and so is every other text.
-/

namespace UcosProxy.NetAddresses

open Bytes UriParameters CgiAccess PortCgi CgiHandlers CgiSafety

/-! ## Decimal addresses -/

/-- The parts between the dots. -/
def parts (text : List Byte) : List (List Byte) := text.splitOn 46

/-- One to three digits, of 255 at most. -/
def acceptsPart (part : List Byte) : Bool :=
  !part.isEmpty && part.all isDigit && decide (digitsValue part ≤ 255) && decide (part.length ≤ 3)

/-- `check_ip` of `net.js`. There are four parts, and each is a number that passes by
itself. -/
def checkIp (text : List Byte) : Bool :=
  decide ((parts text).length = 4) && (parts text).all acceptsPart

/-- An address from its four bytes, the first one on top. -/
def address : List Byte → BitVec 32
  | [first, second, third, fourth] => first ++ second ++ third ++ fourth
  | _ => 0

/-- The byte of a part's decimal value. -/
def decimalByte (part : List Byte) : Byte := BitVec.ofNat 8 (digitsValue part)

/-- The address that a text is in decimal. -/
def decimalAddress (text : List Byte) : BitVec 32 := address ((parts text).map decimalByte)

/-! ## `inet_addr` -/

/-- A digit below eight. -/
def isOctalDigit (byte : Byte) : Bool := 48 ≤ byte.toNat && byte.toNat ≤ 55

/-- The value of octal digits. -/
def octalValue (digits : List Byte) : Nat :=
  digits.foldl (fun value digit => 8 * value + (digit.toNat - 48)) 0

/-- How a part is read: by a reader of octal numbers when it begins with a zero. -/
def readPart (octal : List Byte → Option Byte) (part : List Byte) : Option Byte :=
  if part.head? = some 48 then octal part else some (decimalByte part)

/-- `inet_addr` on the texts that `check_ip` accepts. It is the documented behaviour of the
C library. What octal reading makes of a digit eight or nine is left to the parameter. -/
structure ReadsDotted (inetAddr : List Byte → BitVec 32) (octal : List Byte → Option Byte) :
    Prop where
  octalPart : ∀ part, part.length ≤ 3 → part.head? = some 48 → part.all isOctalDigit = true →
    octal part = some (BitVec.ofNat 8 (octalValue part))
  dotted : ∀ text, checkIp text = true →
    ntohl (inetAddr text) = (((parts text).mapM (readPart octal)).map address).getD (BitVec.allOnes 32)

/-- A part that is read as the decimal number it shows. In octal digits that is a number
below eight. A part without a leading zero always is. -/
def ReadAsDecimal (octal : List Byte → Option Byte) (part : List Byte) : Prop :=
  part.head? = some 48 →
    if part.all isOctalDigit then digitsValue part < 8 else octal part = some (decimalByte part)

/-- What a request with these addresses owes: it fails and leaves everything as it was, or
all four are decimal addresses and just these are stored. What the interface does with
addresses that do not fit each other is not in it. -/
def NetLaw (devIp devMask devGateway mngIp : List Byte) (before after : NetState) : Prop :=
  (after.globalCfg = before.globalCfg ∧ after.ipaddr = before.ipaddr ∧
      after.netmask = before.netmask ∧ after.gw = before.gw ∧ after.netConfigStatus = -1) ∨
    ((∀ text ∈ [devIp, devMask, devGateway, mngIp], checkIp text = true) ∧
      after.globalCfg = ⟨decimalAddress devIp, decimalAddress devMask, decimalAddress devGateway,
        decimalAddress mngIp⟩)

instance (devIp devMask devGateway mngIp : List Byte) (before after : NetState) :
    Decidable (NetLaw devIp devMask devGateway mngIp before after) :=
  inferInstanceAs (Decidable (_ ∨ _))

/-! ## One part -/

/-- What an accepted part is. -/
theorem acceptsPart_iff (part : List Byte) :
    acceptsPart part = true ↔
      part ≠ [] ∧ (∀ digit ∈ part, isDigit digit = true) ∧ digitsValue part ≤ 255 ∧ part.length ≤ 3 := by
  simp [acceptsPart, and_assoc]

/-- A part with a leading zero is of at most two other digits. -/
theorem leadingZero_cases {part : List Byte} (accepted : acceptsPart part = true)
    (zero : part.head? = some 48) :
    part = [48] ∨ (∃ unit, part = [48, unit] ∧ isDigit unit = true) ∨
      ∃ ten unit, part = [48, ten, unit] ∧ isDigit ten = true ∧ isDigit unit = true := by
  obtain ⟨_, digits, _, short⟩ := (acceptsPart_iff part).mp accepted
  match part, zero with
  | [_], rfl => exact Or.inl rfl
  | [_, unit], rfl => exact Or.inr (Or.inl ⟨unit, rfl, digits unit (by simp)⟩)
  | [_, ten, unit], rfl =>
    exact Or.inr (Or.inr ⟨ten, unit, rfl, digits ten (by simp), digits unit (by simp)⟩)
  | _ :: _ :: _ :: _ :: rest, _ =>
    simp only [List.length_cons] at short
    omega

/-- The bounds of a digit. -/
theorem isDigit_bounds {digit : Byte} (digits : isDigit digit = true) :
    48 ≤ digit.toNat ∧ digit.toNat ≤ 57 := by
  simpa [isDigit] using digits

/-- A part with a leading zero is below a hundred, and in octal digits it is worth the
same in both systems exactly when it is below eight. -/
theorem leadingZero_value {part : List Byte} (accepted : acceptsPart part = true)
    (zero : part.head? = some 48) :
    digitsValue part ≤ 99 ∧ octalValue part ≤ digitsValue part ∧
      (part.all isOctalDigit = true → (octalValue part = digitsValue part ↔ digitsValue part < 8)) := by
  rcases leadingZero_cases accepted zero with rfl | ⟨unit, rfl, isUnit⟩ | ⟨ten, unit, rfl, isTen, isUnit⟩
  · decide
  · have bounds := isDigit_bounds isUnit
    have decimal : digitsValue [48, unit] = unit.toNat - 48 := by simp [digitsValue]
    have octal : octalValue [48, unit] = unit.toNat - 48 := by simp [octalValue]
    simp only [decimal, octal, List.all_cons, List.all_nil, isOctalDigit, Bool.and_true,
      Bool.and_eq_true, decide_eq_true_eq, true_iff]
    omega
  · have tens := isDigit_bounds isTen
    have bounds := isDigit_bounds isUnit
    have decimal : digitsValue [48, ten, unit] = 10 * (ten.toNat - 48) + (unit.toNat - 48) := by
      simp [digitsValue]
    have octal : octalValue [48, ten, unit] = 8 * (ten.toNat - 48) + (unit.toNat - 48) := by
      simp [octalValue]
    simp only [decimal, octal, List.all_cons, List.all_nil, isOctalDigit, Bool.and_true,
      Bool.and_eq_true, decide_eq_true_eq]
    omega

/-- Two small numbers are one byte exactly when they are equal. -/
theorem ofNat_inj {left right : Nat} (leftSmall : left < 256) (rightSmall : right < 256) :
    BitVec.ofNat 8 left = BitVec.ofNat 8 right ↔ left = right := by
  constructor
  · intro same
    have values := congrArg BitVec.toNat same
    simp only [BitVec.toNat_ofNat] at values
    omega
  · rintro rfl
    rfl

/-- The decimal byte of an accepted part has its value. -/
theorem decimalByte_toNat {part : List Byte} (accepted : acceptsPart part = true) :
    (decimalByte part).toNat = digitsValue part := by
  obtain ⟨_, _, small, _⟩ := (acceptsPart_iff part).mp accepted
  rw [decimalByte, BitVec.toNat_ofNat]
  omega

section reading
variable {inetAddr : List Byte → BitVec 32} {octal : List Byte → Option Byte}

/-- A part is read as its decimal byte exactly when it is read as decimal. -/
theorem readPart_eq_iff (known : ReadsDotted inetAddr octal) {part : List Byte}
    (accepted : acceptsPart part = true) :
    readPart octal part = some (decimalByte part) ↔ ReadAsDecimal octal part := by
  unfold readPart ReadAsDecimal
  by_cases zero : part.head? = some 48
  · simp only [zero, if_true, true_imp_iff]
    by_cases octals : part.all isOctalDigit = true
    · obtain ⟨small, less, same⟩ := leadingZero_value accepted zero
      have short := ((acceptsPart_iff part).mp accepted).2.2.2
      rw [if_pos octals, known.octalPart part short zero octals, Option.some.injEq, decimalByte,
        ofNat_inj (by omega) (by omega)]
      exact same octals
    · rw [if_neg octals]
  · rw [if_neg zero]
    exact ⟨fun _ here => absurd here zero, fun _ => rfl⟩

/-- A part that is not read at all begins with a zero, so it is no 255. -/
theorem readPart_none {part : List Byte} (accepted : acceptsPart part = true)
    (unread : readPart octal part = none) : decimalByte part ≠ 255 := by
  unfold readPart at unread
  split at unread
  case isTrue zero =>
    obtain ⟨small, _⟩ := leadingZero_value accepted zero
    intro full
    have value := decimalByte_toNat accepted
    rw [full] at value
    have top : (255 : Byte).toNat = 255 := rfl
    omega
  case isFalse => cases unread

/-! ## One address -/

/-- Two words put together are found again. -/
theorem append_inj {high low : Nat} {first first' : BitVec high} {second second' : BitVec low}
    (same : first ++ second = first' ++ second') : first = first' ∧ second = second' := by
  have upper := congrArg (BitVec.extractLsb' low high) same
  have lower := congrArg (BitVec.setWidth low) same
  rw [BitVec.extractLsb'_append_eq_left, BitVec.extractLsb'_append_eq_left] at upper
  simp only [BitVec.setWidth_append, Nat.le_refl, dite_true, BitVec.setWidth_eq] at lower
  exact ⟨upper, lower⟩

/-- An address has its four bytes. -/
theorem address_inj (a b c d a' b' c' d' : Byte) :
    address [a, b, c, d] = address [a', b', c', d'] ↔ a = a' ∧ b = b' ∧ c = c' ∧ d = d' := by
  constructor
  · intro same
    obtain ⟨front, rfl⟩ := append_inj same
    obtain ⟨head, rfl⟩ := append_inj front
    obtain ⟨rfl, rfl⟩ := append_inj head
    exact ⟨rfl, rfl, rfl, rfl⟩
  · rintro ⟨rfl, rfl, rfl, rfl⟩
    rfl

/-- All ones is the address of four bytes of ones. -/
theorem allOnes_eq : BitVec.allOnes 32 = address [255, 255, 255, 255] := by decide

/-- A text that `check_ip` accepts is read as its decimal address exactly when each of
its parts is read as decimal. -/
theorem dotted_eq_iff (known : ReadsDotted inetAddr octal) {text : List Byte}
    (accepted : checkIp text = true) :
    ntohl (inetAddr text) = decimalAddress text ↔
      ∀ part ∈ parts text, ReadAsDecimal octal part := by
  rw [known.dotted text accepted, decimalAddress]
  simp only [checkIp, Bool.and_eq_true, decide_eq_true_eq, List.all_eq_true] at accepted
  obtain ⟨four, each⟩ := accepted
  generalize parts text = pieces at four each ⊢
  match pieces, four with
  | [a, b, c, d], _ =>
    simp only [List.forall_mem_cons, List.not_mem_nil, false_imp_iff, implies_true, and_true] at each ⊢
    obtain ⟨first, second, third, fourth⟩ := each
    rw [← readPart_eq_iff known first, ← readPart_eq_iff known second, ← readPart_eq_iff known third,
      ← readPart_eq_iff known fourth]
    have unread (ok : ¬ (decimalByte a = 255 ∧ decimalByte b = 255 ∧ decimalByte c = 255 ∧
        decimalByte d = 255)) :
        BitVec.allOnes 32 ≠ address [decimalByte a, decimalByte b, decimalByte c, decimalByte d] := by
      rw [allOnes_eq, ne_eq, address_inj]
      intro same
      exact ok ⟨same.1.symm, same.2.1.symm, same.2.2.1.symm, same.2.2.2.symm⟩
    simp only [List.mapM_cons, List.mapM_nil, List.map_cons, List.map_nil]
    cases one : readPart octal a with
    | none =>
      have apart := readPart_none first one
      simpa using unread fun same => apart same.1
    | some a' =>
      cases two : readPart octal b with
      | none =>
        have apart := readPart_none second two
        simpa using unread fun same => apart same.2.1
      | some b' =>
        cases three : readPart octal c with
        | none =>
          have apart := readPart_none third three
          simpa using unread fun same => apart same.2.2.1
        | some c' =>
          cases last : readPart octal d with
          | none =>
            have apart := readPart_none fourth last
            simpa using unread fun same => apart same.2.2.2
          | some d' => simpa using address_inj a' b' c' d' _ _ _ _

end reading

/-! ## The request -/

/-- A request with the four addresses. The values are texts yet, and a parameter that has
none is no text. -/
structure Addresses (params : List Param) (devIp devMask devGateway mngIp : List Byte) : Prop where
  devIp : valueOf "dev_ip" params = .ok devIp
  devMask : valueOf "dev_mask" params = .ok devMask
  devGateway : valueOf "dev_gateway" params = .ok devGateway
  mngIp : valueOf "mng_ip" params = .ok mngIp

/-- It has more than one parameter. -/
theorem Addresses.two {params : List Param} {devIp devMask devGateway mngIp : List Byte}
    (addresses : Addresses params devIp devMask devGateway mngIp) : ¬ params.length < 2 := by
  have names : ascii "dev_ip" ≠ ascii "dev_mask" := by decide
  exact Nat.not_lt.mpr (two_le_length (named_of_valueOf addresses.devIp)
    (named_of_valueOf addresses.devMask) names)

/-- The settings behind a request with these addresses. -/
def netBehind (env : Environment) (devIp devMask devGateway mngIp : List Byte) (before : NetState) :
    NetState :=
  let globalCfg : GlobalConfig :=
    ⟨ntohl (env.inetAddr devIp), ntohl (env.inetAddr devMask), ntohl (env.inetAddr devGateway),
      ntohl (env.inetAddr mngIp)⟩
  if env.ipMskGwValidation globalCfg.hostIp globalCfg.netmask globalCfg.gateway = false then
    { before with netConfigStatus := -1 }
  else ⟨globalCfg, globalCfg.hostIp, globalCfg.netmask, globalCfg.gateway, 0⟩

/-- A request with four addresses is served. -/
theorem Addresses.served {params : List Param} {devIp devMask devGateway mngIp : List Byte}
    (addresses : Addresses params devIp devMask devGateway mngIp) (env : Environment)
    (state : CgiState) :
    ∃ page, netCgiInterface env params state =
      .ok (page, { state with net := netBehind env devIp devMask devGateway mngIp state.net }) := by
  simp only [netCgiInterface, addresses.two, if_false, addresses.devIp, addresses.devMask,
    addresses.devGateway, addresses.mngIp, ok_bind, netBehind]
  split <;> exact ⟨_, rfl⟩

/-- A request with four addresses is served, and it obeys the law exactly when it is
refused, or when all four are accepted by `check_ip` and every part is read as the decimal
number that it shows. The address of the manager is checked by nothing, and a malformed or
octal one is stored with the others. The law itself asks for all four addresses, so the
unchecked one is where it breaks besides the leading zeros. -/
theorem net_law_iff (env : Environment) (octal : List Byte → Option Byte)
    (known : ReadsDotted env.inetAddr octal) (params : List Param) (state : CgiState)
    (devIp devMask devGateway mngIp : List Byte)
    (addresses : Addresses params devIp devMask devGateway mngIp) :
    ∃ page after, netCgiInterface env params state = .ok (page, after) ∧
      (NetLaw devIp devMask devGateway mngIp state.net after.net ↔
        env.ipMskGwValidation (ntohl (env.inetAddr devIp)) (ntohl (env.inetAddr devMask))
            (ntohl (env.inetAddr devGateway)) = false ∨
          ∀ text ∈ [devIp, devMask, devGateway, mngIp],
            checkIp text = true ∧ ∀ part ∈ parts text, ReadAsDecimal octal part) := by
  obtain ⟨page, served⟩ := addresses.served env state
  refine ⟨page, _, served, ?_⟩
  have reads {text : List Byte} (accepted : checkIp text = true) := dotted_eq_iff known accepted
  simp only [netBehind]
  cases valid : env.ipMskGwValidation (ntohl (env.inetAddr devIp)) (ntohl (env.inetAddr devMask))
      (ntohl (env.inetAddr devGateway)) with
  | false => simp [NetLaw]
  | true =>
    simp only [NetLaw, Bool.true_eq_false, if_false, GlobalConfig.mk.injEq, List.forall_mem_cons,
      List.not_mem_nil, false_imp_iff, implies_true, and_true]
    constructor
    · rintro (⟨_, _, _, _, status⟩ | ⟨⟨ip, mask, gateway, manager⟩, ipStored, maskStored,
        gatewayStored, managerStored⟩)
      · exact absurd status (by decide)
      · exact Or.inr ⟨⟨ip, (reads ip).mp ipStored⟩, ⟨mask, (reads mask).mp maskStored⟩,
          ⟨gateway, (reads gateway).mp gatewayStored⟩, ⟨manager, (reads manager).mp managerStored⟩⟩
    · rintro (refused | ⟨⟨ip, ipRead⟩, ⟨mask, maskRead⟩, ⟨gateway, gatewayRead⟩, manager, managerRead⟩)
      · cases refused
      · exact Or.inr ⟨⟨ip, mask, gateway, manager⟩, (reads ip).mpr ipRead, (reads mask).mpr maskRead,
          (reads gateway).mpr gatewayRead, (reads manager).mpr managerRead⟩

/-! ## On fixed requests -/

/-- The order of the bytes is turned around twice. -/
theorem ntohl_ntohl (word : BitVec 32) : ntohl (ntohl word) = word := by
  apply BitVec.eq_of_getLsbD_eq
  intro index bound
  simp only [ntohl, BitVec.getLsbD_append, BitVec.getLsbD_setWidth, BitVec.getLsbD_ushiftRight]
  grind

/-- An octal part whose digits are not looked at. -/
def octalDigits (part : List Byte) : Option Byte := some (BitVec.ofNat 8 (octalValue part))

/-- `inet_addr` on texts of four parts, and all ones for every other text. A part with a
leading zero is octal there, as the standard function has it. It shows that the hypotheses
on `inet_addr` can be met. -/
def dottedInetAddr (text : List Byte) : BitVec 32 :=
  ntohl (if checkIp text then
    (((parts text).mapM (readPart octalDigits)).map address).getD (BitVec.allOnes 32)
  else BitVec.allOnes 32)

theorem dottedInetAddr_reads : ReadsDotted dottedInetAddr octalDigits where
  octalPart := fun _ _ _ _ => rfl
  dotted := by
    intro text accepted
    rw [dottedInetAddr, ntohl_ntohl, if_pos accepted]

/-- A network stack whose gateways must be neighbours. -/
def netEnvironment : Environment :=
  { sampleEnvironment with
    inetAddr := dottedInetAddr
    ipMskGwValidation := fun host mask gateway => host &&& mask == gateway &&& mask }

/-- A request for one host, with an address of the manager. -/
def netParams (mngIp : String) : List Param :=
  [⟨ascii "dev_ip", some (ascii "192.168.1.10")⟩, ⟨ascii "dev_mask", some (ascii "255.255.255.0")⟩,
    ⟨ascii "dev_gateway", some (ascii "192.168.1.1")⟩, ⟨ascii "mng_ip", some (ascii mngIp)⟩]

theorem netParams_addresses (mngIp : String) :
    Addresses (netParams mngIp) (ascii "192.168.1.10") (ascii "255.255.255.0")
      (ascii "192.168.1.1") (ascii mngIp) := by
  constructor <;> rw [valueOf_eq_ok_iff] <;> simp [netParams, namedParam, ascii]

/-- A good address of the manager is stored. -/
theorem manager_is_stored :
    ∃ page after,
      netCgiInterface netEnvironment (netParams "192.168.1.100") sampleState = .ok (page, after) ∧
        (NetLaw (ascii "192.168.1.10") (ascii "255.255.255.0") (ascii "192.168.1.1")
            (ascii "192.168.1.100") sampleState.net after.net ↔
          netEnvironment.ipMskGwValidation (ntohl (netEnvironment.inetAddr (ascii "192.168.1.10")))
              (ntohl (netEnvironment.inetAddr (ascii "255.255.255.0")))
              (ntohl (netEnvironment.inetAddr (ascii "192.168.1.1"))) = false ∨
            ∀ text ∈ [ascii "192.168.1.10", ascii "255.255.255.0", ascii "192.168.1.1",
                ascii "192.168.1.100"],
              checkIp text = true ∧ ∀ part ∈ parts text, ReadAsDecimal octalDigits part) :=
  net_law_iff netEnvironment octalDigits dottedInetAddr_reads (netParams "192.168.1.100") sampleState
    _ _ _ _ (netParams_addresses "192.168.1.100")

/-- A malformed address of the manager is stored as all ones, and one with a leading zero
as another address. -/
theorem unchecked_manager_is_stored :
    (∃ page after,
      netCgiInterface netEnvironment (netParams "192.168.1.300") sampleState = .ok (page, after) ∧
        after.net.globalCfg.jumpIp = BitVec.allOnes 32 ∧
        ¬ NetLaw (ascii "192.168.1.10") (ascii "255.255.255.0") (ascii "192.168.1.1")
          (ascii "192.168.1.300") sampleState.net after.net) ∧
    ∃ page after,
      netCgiInterface netEnvironment (netParams "192.168.1.010") sampleState = .ok (page, after) ∧
        after.net.globalCfg.jumpIp = address [192, 168, 1, 8] ∧
        ¬ NetLaw (ascii "192.168.1.10") (ascii "255.255.255.0") (ascii "192.168.1.1")
          (ascii "192.168.1.010") sampleState.net after.net := by
  obtain ⟨page, malformed⟩ :=
    (netParams_addresses "192.168.1.300").served netEnvironment sampleState
  obtain ⟨page', octal⟩ :=
    (netParams_addresses "192.168.1.010").served netEnvironment sampleState
  exact ⟨⟨page, _, malformed, by decide, by decide⟩,
    page', _, octal, by decide, by decide⟩

end UcosProxy.NetAddresses
