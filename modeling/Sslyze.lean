import Sslyze.CipherSuites.Tables
import Sslyze.CipherSuites.SetLoop
import Sslyze.CipherSuites.Parse
import Sslyze.CipherSuites.Outcome
import Sslyze.CipherSuites.Names
import Sslyze.CipherSuites.Repository
import Sslyze.CipherSuites.Requests
