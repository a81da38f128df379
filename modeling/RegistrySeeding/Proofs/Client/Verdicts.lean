import RegistrySeeding.Client.Basic

/-! What a create call comes to. A status in the two hundreds is a created record whatever the body
is; otherwise a code that the body names decides, and the status only where it names none. Of all
codes one is a conflict and one is no answer; every other is a failure of the record. -/
namespace RegistrySeeding

namespace Status

end Status

namespace Client

section
variable {σ : Type}

end
end Client
end RegistrySeeding
