import RmdCanSdk.Ethercat.Pdo

/-!
# Process data objects of MT_Device drives

The objects that are mapped into the process data of a drive, in the order in which they are
registered with the master.
-/

namespace RmdCanSdk

structure EthercatPdoEntrySpec where
  index : BitVec 16
  subindex : BitVec 8
  bitLength : BitVec 8
  deriving DecidableEq

structure EthercatMtDevicePdoProfileSpec where
  pdoIndex : BitVec 16
  entries : List EthercatPdoEntrySpec
  deriving DecidableEq

structure EthercatMtDevicePdoSpec where
  vendorId : BitVec 32
  productCode : BitVec 32
  rxAssignmentIndex : BitVec 16
  txAssignmentIndex : BitVec 16

def ethercatMtDevicePdoSpec : EthercatMtDevicePdoSpec where
  vendorId := 0x00202008
  productCode := 0x00000000
  rxAssignmentIndex := 0x1c12
  txAssignmentIndex := 0x1c13

def ethercatMtDeviceRxPdoSpec : EthercatMtDeviceRxProfile → EthercatMtDevicePdoProfileSpec
  | .standard => {
      pdoIndex := 0x1600
      entries := [
        ⟨0x6040, 0x00, 16⟩,
        ⟨0x607a, 0x00, 32⟩,
        ⟨0x60ff, 0x00, 32⟩,
        ⟨0x6071, 0x00, 16⟩,
        ⟨0x6072, 0x00, 16⟩,
        ⟨0x6060, 0x00, 8⟩,
        ⟨0x2ffd, 0x00, 8⟩] }
  | .pvt => {
      pdoIndex := 0x1601
      entries := [
        ⟨0x6040, 0x00, 16⟩,
        ⟨0x607a, 0x00, 32⟩,
        ⟨0x60ff, 0x00, 32⟩,
        ⟨0x6071, 0x00, 16⟩,
        ⟨0x2000, 0x00, 32⟩,
        ⟨0x2001, 0x00, 32⟩,
        ⟨0x6060, 0x00, 8⟩,
        ⟨0x2ffd, 0x00, 8⟩] }

def ethercatMtDeviceTxPdoSpec : EthercatMtDeviceTxProfile → EthercatMtDevicePdoProfileSpec
  | .standard => {
      pdoIndex := 0x1a00
      entries := [
        ⟨0x6041, 0x00, 16⟩,
        ⟨0x6064, 0x00, 32⟩,
        ⟨0x606c, 0x00, 32⟩,
        ⟨0x6077, 0x00, 16⟩,
        ⟨0x603f, 0x00, 16⟩,
        ⟨0x6061, 0x00, 8⟩,
        ⟨0x2ffe, 0x00, 8⟩] }
  | .extended => {
      pdoIndex := 0x1a02
      entries := [
        ⟨0x6041, 0x00, 16⟩,
        ⟨0x6064, 0x00, 32⟩,
        ⟨0x606c, 0x00, 32⟩,
        ⟨0x6077, 0x00, 16⟩,
        ⟨0x603f, 0x00, 16⟩,
        ⟨0x2009, 0x00, 16⟩,
        ⟨0x200c, 0x00, 16⟩,
        ⟨0x200a, 0x00, 16⟩,
        ⟨0x6061, 0x00, 8⟩,
        ⟨0x2ffe, 0x00, 8⟩] }

end RmdCanSdk
