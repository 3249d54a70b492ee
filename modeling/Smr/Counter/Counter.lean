import Smr.Deployment.Repeats

set_option autoImplicit false

namespace Smr

namespace Counter

end Counter

end Smr
