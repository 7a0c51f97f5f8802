import MiniJvm.ClassFile.Layout
import MiniJvm.Main
import MiniJvm.Proofs.ClassFile.PrefixFree
import MiniJvm.Proofs.Concat.Recipe
import MiniJvm.Proofs.Constant.Linking
import MiniJvm.Proofs.Cursor.Atomicity
import MiniJvm.Proofs.Descriptor.Grammar
import MiniJvm.Proofs.Launcher.Target
import MiniJvm.Proofs.Layout.ClassFile
import MiniJvm.Proofs.Layout.PoolReading
import MiniJvm.Proofs.Machine.Abandonment
import MiniJvm.Proofs.Machine.ArrayMemory
import MiniJvm.Proofs.Machine.CallEntry
import MiniJvm.Proofs.Machine.Calls
import MiniJvm.Proofs.Machine.ClassFiles
import MiniJvm.Proofs.Machine.ClassOrigin
import MiniJvm.Proofs.Machine.ClassTable
import MiniJvm.Proofs.Machine.ControlFlow
import MiniJvm.Proofs.Machine.DynamicConcat
import MiniJvm.Proofs.Machine.FailedStep
import MiniJvm.Proofs.Machine.FieldTypes
import MiniJvm.Proofs.Machine.Footprint
import MiniJvm.Proofs.Machine.FrameIntegrity
import MiniJvm.Proofs.Machine.IntegerArithmetic
import MiniJvm.Proofs.Machine.IntegerValues
import MiniJvm.Proofs.Machine.LazyInitialization
import MiniJvm.Proofs.Machine.ReferenceSafety
import MiniJvm.Proofs.Machine.StackEffect
import MiniJvm.Proofs.Machine.TypeTags
import MiniJvm.Proofs.Machine.UsableIndices
import MiniJvm.Proofs.Path.Components
import MiniJvm.Proofs.Path.Confinement
