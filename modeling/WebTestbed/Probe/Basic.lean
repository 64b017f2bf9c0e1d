import WebTestbed.Session

/-! Asking whether a server is there. -/
namespace WebTestbed

/-- The two questions to a server at a URL, each answered within a time: whether it answers, and
whether it is known not to be reachable. -/
structure Probe (σ : Type) where
  answers : String → Duration → Action σ Bool
  refuses : String → Duration → Action σ Bool

namespace Probe

/-- A probe that takes a server that does not answer for one that is not reachable. -/
def ofAnswers (answers : String → Duration → Action σ Bool) : Probe σ :=
  ⟨answers, fun url d => return !(← answers url d)⟩

end WebTestbed.Probe
