/-!
Contract: the keys of a state file.

Owns: the key of each field, for the writer and the reader alike.

Does not own: the values under the keys.
-/

namespace PhoneAccounts.StateFile.Key

/-- The only key of the root. -/
def root : String := "phone_account_registrar_state"

/-! ## The body -/

def version : String := "version"

def defaultOutgoing : String := "default_outgoing"

def simCallManager : String := "sim_call_manager"

def accounts : String := "accounts"

/-! ## A handle -/

def componentName : String := "component_name"

def id : String := "id"

def serialNumber : String := "user_serial_number"

/-! ## An account -/

def handle : String := "account_handle"

def address : String := "address"

def subscriptionAddress : String := "subscription_number"

def capabilities : String := "capabilities"

def icon : String := "icon"

/-- The inline icon of files before version 5. -/
def iconBitmap : String := "icon_bitmap"

def iconPackage : String := "icon_package_name"

def iconResource : String := "icon_res_id"

def iconTint : String := "icon_tint"

def highlightColor : String := "highlight_color"

def label : String := "label"

def shortDescription : String := "short_description"

def schemes : String := "supported_uri_schemes"

def enabled : String := "enabled"

/-! ## A list with its length -/

def length : String := "length"

def values : String := "values"

end PhoneAccounts.StateFile.Key
