import Rukpak.Api
import Rukpak.Conditions
import Rukpak.Plain.Collaborators
import Rukpak.Plain.LoadBundle
import Rukpak.Plain.ReleaseState
import Rukpak.Plain.Reconcile
import Rukpak.Plain.ReleaseCalls
import Rukpak.Plain.Status
import Rukpak.Plain.ReleaseStore
import Rukpak.Plain.Run
import Rukpak.Plain.DynamicWatch
import Rukpak.Plain.WatchProgress
import Rukpak.Plain.Lifetime
import Rukpak.Plain.ConditionText
