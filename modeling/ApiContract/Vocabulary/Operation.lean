import ApiContract.Vocabulary

set_option autoImplicit false

namespace ApiContract

inductive KnownOperation where
  | allocate
  | cancelEject
  | cancelFormat
  | cancelImport
  | cancelOnline
  | compact
  | eject
  | format
  | getPhysicalPlacement
  | importing
  | online
  | startBulkGet
  | startBulkPut
  | startBulkVerify
  | verify
  | verifyPhysicalPlacement
  | verifySafeToStartBulkPut
  deriving DecidableEq

instance : Vocabulary KnownOperation where
  all := [
    .allocate, .cancelEject, .cancelFormat, .cancelImport, .cancelOnline, .compact, .eject,
    .format, .getPhysicalPlacement, .importing, .online, .startBulkGet, .startBulkPut,
    .startBulkVerify, .verify, .verifyPhysicalPlacement, .verifySafeToStartBulkPut]
  spelling
    | .allocate => "ALLOCATE"
    | .cancelEject => "CANCEL_EJECT"
    | .cancelFormat => "CANCEL_FORMAT"
    | .cancelImport => "CANCEL_IMPORT"
    | .cancelOnline => "CANCEL_ONLINE"
    | .compact => "COMPACT"
    | .eject => "EJECT"
    | .format => "FORMAT"
    | .getPhysicalPlacement => "GET_PHYSICAL_PLACEMENT"
    | .importing => "IMPORT"
    | .online => "ONLINE"
    | .startBulkGet => "START_BULK_GET"
    | .startBulkPut => "START_BULK_PUT"
    | .startBulkVerify => "START_BULK_VERIFY"
    | .verify => "VERIFY"
    | .verifyPhysicalPlacement => "VERIFY_PHYSICAL_PLACEMENT"
    | .verifySafeToStartBulkPut => "VERIFY_SAFE_TO_START_BULK_PUT"

abbrev Operation := Open KnownOperation

end ApiContract
