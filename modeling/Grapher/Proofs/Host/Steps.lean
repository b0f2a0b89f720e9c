import Grapher.Host.Interface
import Grapher.Proofs.Sampling.Partial
import Grapher.Proofs.Session.Runs

namespace Grapher.Host

variable {α : Type} {host : Host α} {word : WordSize} {session next : Session} {step : Step α}
  {edit : Edit} {v : α}

end Grapher.Host
