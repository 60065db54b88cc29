import QdrantQwen.Py.Text
import QdrantQwen.Py.Float
import QdrantQwen.Py.Json
import QdrantQwen.Py.Md5
import QdrantQwen.Py.Numpy
import QdrantQwen.Py.Http
import QdrantQwen.Py.Loads
import QdrantQwen.Py.Dumps
import QdrantQwen.Py.RoundTrip
import QdrantQwen.Embedding.Fallback
import QdrantQwen.Embedding.Service
import QdrantQwen.Embedding.OpenAI
import QdrantQwen.Bridge.Handler
import QdrantQwen.Bridge.Qdrant
import QdrantQwen.Bridge.LocalAI
import QdrantQwen.Bridge.Main
import QdrantQwen.Bridge.Wire
import QdrantQwen.Health
