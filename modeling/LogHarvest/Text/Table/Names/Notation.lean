import LogHarvest.Text.Table.NameRun

/-!
# Names: notation for music and signs, and the alphabets of mathematics
-/

namespace LogHarvest.Text.Table

def notationNames : List NameRun := [
  ⟨0x1D000, [
    "aBYZANTINE MUSICAL SYMBOL PSILIdDASEIAdPERISPOMENIdOXEIA EKFONITIKONeDIPLI",
    "dVAREIA EKFONITIKONeDIPLIdKATHISTIdSYRMATIKIdPARAKLITIKIdYPOKRISISdYPOKRISIS DIPLIdKREMASTI",
    "dAPESO EKFONITIKONdEXO EKFONITIKONdTELEIAdKENTIMATAdAPOSTROFOSdAPOSTROFOS DIPLIdSYNEVMA",
    "dTHITAdOLIGON ARCHAIONdGORGON ARCHAIONdPSILONdCHAMILONdVATHYdISON ARCHAIONdKENTIMA ARCHAION",
    "dKENTIMATA ARCHAIONdSAXIMATAdPARICHONdSTAVROS APODEXIAdOXEIAI ARCHAIONdVAREIAI ARCHAION",
    "dAPODERMA ARCHAIONdAPOTHEMAdKLASMAdREVMAdPIASMA ARCHAIONdTINAGMAdANATRICHISMAdSEISMA",
    "dSYNAGMA ARCHAIONeMETA STAVROUdOYRANISMA ARCHAIONdTHEMAdLEMOIdDYOdTRIAdTESSERAdKRATIMATA",
    "dAPESO EXO NEOdFTHORA ARCHAIONdIMIFTHORAdTROMIKON ARCHAIONdKATAVA TROMIKONdPELASTON",
    "dPSIFISTONdKONTEVMAdCHOREVMA ARCHAIONdRAPISMAdPARAKALESMA ARCHAIONdPARAKLITIKI ARCHAION",
    "dICHADINdNANAdPETASMAdKONTEVMA ALLOdTROMIKON ALLOdSTRAGGISMATAdGRONTHISMATAdISON NEO",
    "dOLIGON NEOdOXEIA NEOdPETASTIdKOUFISMAdPETASTOKOUFISMAdKRATIMOKOUFISMAdPELASTON NEO",
    "dKENTIMATA NEO ANOdKENTIMA NEO ANOdYPSILIdAPOSTROFOS NEOdAPOSTROFOI SYNDESMOS NEOdYPORROI",
    "dKRATIMOYPORROONdELAFRONdCHAMILIdMIKRON ISONdVAREIA NEOdPIASMA NEOdPSIFISTON NEOdOMALON",
    "dANTIKENOMAdLYGISMAdPARAKLITIKI NEOdPARAKALESMA NEOdETERON PARAKALESMAdKYLISMA",
    "dANTIKENOKYLISMAdTROMIKON NEOdEKSTREPTONdSYNAGMA NEOdSYRMAdCHOREVMA NEOdEPEGERMAdSEISMA NEO",
    "dXIRON KLASMAdTROMIKOPSIFISTONdPSIFISTOLYGISMAdTROMIKOLYGISMAdTROMIKOPARAKALESMA",
    "dPSIFISTOPARAKALESMAdTROMIKOSYNAGMAdPSIFISTOSYNAGMAdGORGOSYNTHETONdARGOSYNTHETON",
    "dETERON ARGOSYNTHETONdOYRANISMA NEOdTHEMATISMOS ESOeEXOdTHEMA APLOUNdTHES KAI APOTHES",
    "dKATAVASMAdENDOFONONdYFEN KATOeANOdSTAVROSdKLASMA ANOdDIPLI ARCHAIONdKRATIMA ARCHAIONeALLO",
    "eNEOdAPODERMA NEOdAPLIdDIPLIdTRIPLIdTETRAPLIdKORONISdLEIMMA ENOS CHRONOUeDYO CHRONON",
    "eTRION CHRONONeTESSARON CHRONONeIMISEOS CHRONOUdGORGON NEO ANOePARESTIGMENON ARISTERAfDEXIA",
    "dDIGORGONdDIGORGON PARESTIGMENON ARISTERA KATOgANOfDEXIAdTRIGORGONdARGONdIMIDIARGONdDIARGON",
    "dAGOGI POLI ARGIeARGOTERIeARGIeMETRIAeMESIeGORGIeGORGOTERIePOLI GORGIdMARTYRIA PROTOS ICHOS",
    "eALLI PROTOS ICHOSeDEYTEROS ICHOSeALLI DEYTEROS ICHOSeTRITOS ICHOSeTRIFONIASeTETARTOS ICHOS",
    "fLEGETOS ICHOSeLEGETOS ICHOSePLAGIOS ICHOSdISAKIA TELOUS ICHIMATOS",
    "dAPOSTROFOI TELOUS ICHIMATOSdFANEROSIS TETRAFONIASeMONOFONIASeDIFONIASdMARTYRIA VARYS ICHOS",
    "ePROTOVARYS ICHOSePLAGIOS TETARTOS ICHOSdGORTHMIKON N APLOUNfDIPLOUNdENARXIS KAI FTHORA VOU",
    "dIMIFONONdIMIFTHORONdFTHORA ARCHAION DEYTEROU ICHOUeDIATONIKI PAfNANAeNAOS ICHOS",
    "eDIATONIKI DIeSKLIRON DIATONON DIeDIATONIKI KEfZOfNI KATOgANOeMALAKON CHROMA DIFONIAS",
    "gMONOFONIASdFHTORA SKLIRON CHROMA VASISdFTHORA SKLIRON CHROMA SYNAFIeNENANOdCHROA ZYGOS",
    "eKLITONeSPATHIdFTHORA I YFESIS TETARTIMORIONeENARMONIOS ANTIFONIAdYFESIS TRITIMORION",
    "dDIESIS TRITIMORIONeTETARTIMORIONeAPLI DYO DODEKATAeMONOGRAMMOS TESSERA DODEKATA",
    "eDIGRAMMOS EX DODEKATAeTRIGRAMMOS OKTO DODEKATAdYFESIS APLI DYO DODEKATA",
    "eMONOGRAMMOS TESSERA DODEKATAeDIGRAMMOS EX DODEKATAeTRIGRAMMOS OKTO DODEKATAdGENIKI DIESIS",
    "eYFESISdDIASTOLI APLI MIKRIfMEGALIeDIPLIeTHESEOSdSIMANSIS THESEOSeTHESEOS DISIMOUfTRISIMOU",
    "fTETRASIMOUeARSEOSeARSEOS DISIMOUfTRISIMOUfTETRASIMOUdDIGRAMMA GGdDIFTOGGOS OUdSTIGMA",
    "dARKTIKO PAeVOUeGAeDIeKEeZOeNIdKENTIMATA NEO MESOdKENTIMA NEO MESOdKENTIMATA NEO KATO",
    "dKENTIMA NEO KATOdKLASMA KATOdGORGON NEO KATO"]⟩,
  ⟨0x1D100, [
    "aMUSICAL SYMBOL SINGLE BARLINEcDOUBLE BARLINEcFINAL BARLINEcREVERSE FINAL BARLINE",
    "cDASHED BARLINEcSHORT BARLINEcLEFT REPEAT SIGNcRIGHT REPEAT SIGNcREPEAT DOTScDAL SEGNO",
    "cDA CAPOcSEGNOcCODAcREPEATED FIGURE-1e2e3cFERMATAcFERMATA BELOWcBREATH MARKcCAESURAcBRACE",
    "cBRACKETcONE-LINE STAFFcTWO-LINE STAFFcTHREE-LINE STAFFcFOUR-LINE STAFFcFIVE-LINE STAFF",
    "cSIX-LINE STAFFdSTRING FRETBOARDcFOUR-STRING FRETBOARDcG CLEFdCLEF OTTAVA ALTAfBASSAcC CLEF",
    "cF CLEFdCLEF OTTAVA ALTAfBASSAcDRUM CLEF-1e2..cMULTIPLE MEASURE RESTcDOUBLE SHARPdFLAT",
    "cFLAT UPdDOWNcNATURAL UPdDOWNcSHARP UPdDOWNcQUARTER TONE SHARPeFLATcCOMMON TIMEcCUT TIME",
    "cOTTAVA ALTAdBASSAcQUINDICESIMA ALTAdBASSAcMULTI RESTcWHOLE RESTcHALF RESTcQUARTER REST",
    "cEIGHTH RESTcSIXTEENTH RESTcTHIRTY-SECOND RESTcSIXTY-FOURTH REST",
    "cONE HUNDRED TWENTY-EIGHTH RESTcX NOTEHEADcPLUS NOTEHEADcCIRCLE X NOTEHEAD",
    "cSQUARE NOTEHEAD WHITEeBLACKcTRIANGLE NOTEHEAD UP WHITEfBLACKeLEFT WHITEfBLACKeRIGHT WHITE",
    "fBLACKeDOWN WHITEfBLACKeUP RIGHT WHITEgBLACKcMOON NOTEHEAD WHITEeBLACK",
    "cTRIANGLE-ROUND NOTEHEAD DOWN WHITEgBLACKcPARENTHESIS NOTEHEADcVOID NOTEHEADcNOTEHEAD BLACK",
    "cNULL NOTEHEADcCLUSTER NOTEHEAD WHITEeBLACKcBREVEcWHOLE NOTEcHALF NOTEcQUARTER NOTE",
    "cEIGHTH NOTEcSIXTEENTH NOTEcTHIRTY-SECOND NOTEcSIXTY-FOURTH NOTE",
    "cONE HUNDRED TWENTY-EIGHTH NOTEcCOMBINING STEMdSPRECHGESANG STEMdTREMOLO-1e2e3",
    "cFINGERED TREMOLO-1e2e3cCOMBINING AUGMENTATION DOTdFLAG-1e2e3e4e5cBEGIN BEAMcEND BEAM",
    "cBEGIN TIEcEND TIEcBEGIN SLURcEND SLURcBEGIN PHRASEcEND PHRASEcCOMBINING ACCENTdSTACCATO",
    "dTENUTOdSTACCATISSIMOdMARCATOdMARCATO-STACCATOdACCENT-STACCATOdLOUREcARPEGGIATO UPdDOWN",
    "cCOMBINING DOITdRIPdFLIPdSMEARdBENDdDOUBLE TONGUEdTRIPLE TONGUEcRINFORZANDOcSUBITOcZcPIANO",
    "cMEZZOcFORTEcCRESCENDOcDECRESCENDOcGRACE NOTE SLASHeNO SLASHcTRcTURNcINVERTED TURN",
    "cTURN SLASHdUPcORNAMENT STROKE-1e2e3e4e5e6e7e8e9e10e11cHAUPTSTIMMEcNEBENSTIMME",
    "cEND OF STIMMEcDEGREE SLASHcCOMBINING DOWN BOWdUP BOWdHARMONICdSNAP PIZZICATOcPEDAL MARK",
    "dUP MARKcHALF PEDAL MARKcGLISSANDO UPdDOWNcWITH FINGERNAILScDAMPcDAMP ALLcMAXIMAcLONGA",
    "cBREVIScSEMIBREVIS WHITEdBLACKcMINIMAcMINIMA BLACKcSEMIMINIMA WHITEdBLACKcFUSA WHITEdBLACK",
    "cLONGA PERFECTA RESTdIMPERFECTA RESTcBREVIS RESTcSEMIBREVIS RESTcMINIMA REST",
    "cSEMIMINIMA RESTcTEMPUS PERFECTUM CUM PROLATIONE PERFECTAgIMPERFECTAgPERFECTA DIMINUTION-1",
    "dIMPERFECTUM CUM PROLATIONE PERFECTAgIMPERFECTAgIMPERFECTA DIMINUTION-1i2i3cCROIX",
    "cGREGORIAN C CLEFdF CLEFcSQUARE BcVIRGAcPODATUScCLIVIScSCANDICUScCLIMACUScTORCULUS",
    "cPORRECTUScPORRECTUS FLEXUScSCANDICUS FLEXUScTORCULUS RESUPINUScPES SUBPUNCTIS",
    "cKIEVAN C CLEFdEND OF PIECEdFINAL NOTEdRECITATIVE MARKdWHOLE NOTEdHALF NOTE",
    "dQUARTER NOTE STEM DOWNgUPdEIGHTH NOTE STEM DOWNgUPdFLAT SIGNcSORIcKORON"]⟩,
  ⟨0x1D200, [
    "aGREEK VOCAL NOTATION SYMBOL-1e2e3e4e5e6e7e8e9e10e11e12e13e14e15e16e17e18e19e20e21e22e23e24",
    "e50e51e52e53e54bINSTRUMENTAL NOTATION SYMBOL-1e2e4e5e7e8e11e12e13e14e17e18e19e23e24e25e26",
    "e27e29e30e32e36e37e38e39e40e42e43e45e47e48e49e50e51e52e53e54",
    "aCOMBINING GREEK MUSICAL TRISEMEdTETRASEMEdPENTASEMEaGREEK MUSICAL LEIMMA"]⟩,
  ⟨0x1D2E0, [
    "aMAYAN NUMERAL ZEROcONEcTWOcTHREEcFOURcFIVEcSIXcSEVENcEIGHTcNINEcTENcELEVENcTWELVEcTHIRTEEN",
    "cFOURTEENcFIFTEENcSIXTEENcSEVENTEENcEIGHTEENcNINETEEN"]⟩,
  ⟨0x1D300, [
    "aMONOGRAM FOR EARTHaDIGRAM FOR HEAVENLY EARTHcHUMAN EARTHcEARTHLY HEAVENdHUMANcEARTH",
    "aTETRAGRAM FOR CENTREcFULL CIRCLEcMIREDcBARRIERcKEEPING SMALLcCONTRARIETYcASCENTcOPPOSITION",
    "cBRANCHING OUTcDEFECTIVENESS OR DISTORTIONcDIVERGENCEcYOUTHFULNESScINCREASEcPENETRATION",
    "cREACHcCONTACTcHOLDING BACKcWAITINGcFOLLOWINGcADVANCEcRELEASEcRESISTANCEcEASEcJOY",
    "cCONTENTIONcENDEAVOURcDUTIEScCHANGEcDECISIVENESScBOLD RESOLUTIONcPACKINGcLEGIONcCLOSENESS",
    "cKINSHIPcGATHERINGcSTRENGTHcPURITYcFULLNESScRESIDENCEcLAW OR MODELcRESPONSEcGOING TO MEET",
    "cENCOUNTERScSTOVEcGREATNESScENLARGEMENTcPATTERNcRITUALcFLIGHTcVASTNESS OR WASTINGcCONSTANCY",
    "cMEASUREcETERNITYcUNITYcDIMINISHMENTcCLOSED MOUTHcGUARDEDNESScGATHERING INcMASSING",
    "cACCUMULATIONcEMBELLISHMENTcDOUBTcWATCHcSINKINGcINNERcDEPARTUREcDARKENINGcDIMMING",
    "cEXHAUSTIONcSEVERANCEcSTOPPAGEcHARDNESScCOMPLETIONcCLOSUREcFAILUREcAGGRAVATIONcCOMPLIANCE",
    "cON THE VERGEcDIFFICULTIEScLABOURINGcFOSTERING.........aCOUNTING ROD UNIT DIGIT ONEeTWO",
    "eTHREEeFOUReFIVEeSIXeSEVENeEIGHTeNINEcTENS DIGIT ONEeTWOeTHREEeFOUReFIVEeSIXeSEVENeEIGHT",
    "eNINEaIDEOGRAPHIC TALLY MARK ONEdTWOdTHREEdFOURdFIVEaTALLY MARK ONEcFIVE"]⟩,
  ⟨0x1D400, [
    "aMATHEMATICAL BOLD CAPITAL AdBdCdDdEdFdGdHdIdJdKdLdMdNdOdPdQdRdSdTdUdVdWdXdYdZcSMALL AdBdC",
    "dDdEdFdGdHdIdJdKdLdMdNdOdPdQdRdSdTdUdVdWdXdYdZbITALIC CAPITAL AdBdCdDdEdFdGdHdIdJdKdLdMdNdO",
    "dPdQdRdSdTdUdVdWdXdYdZcSMALL AdBdCdDdEdFdG.dIdJdKdLdMdNdOdPdQdRdSdTdUdVdWdXdYdZ",
    "bBOLD ITALIC CAPITAL AeBeCeDeEeFeGeHeIeJeKeLeMeNeOePeQeReSeTeUeVeWeXeYeZdSMALL AeBeCeDeEeF",
    "eGeHeIeJeKeLeMeNeOePeQeReSeTeUeVeWeXeYeZbSCRIPT CAPITAL A.dCdD..dG..dJdK..dNdOdPdQ.dSdTdUdV",
    "dWdXdYdZcSMALL AdBdCdD.dF.dHdIdJdKdLdMdN.dPdQdRdSdTdUdVdWdXdYdZbBOLD SCRIPT CAPITAL AeBeCeD",
    "eEeFeGeHeIeJeKeLeMeNeOePeQeReSeTeUeVeWeXeYeZdSMALL AeBeCeDeEeFeGeHeIeJeKeLeMeNeOePeQeReSeT",
    "eUeV"]⟩,
  ⟨0x1D500, [
    "aMATHEMATICAL BOLD SCRIPT SMALL WeXeYeZbFRAKTUR CAPITAL AdB.dDdEdFdG..dJdKdLdMdNdOdPdQ.dSdT",
    "dUdVdWdXdY.cSMALL AdBdCdDdEdFdGdHdIdJdKdLdMdNdOdPdQdRdSdTdUdVdWdXdYdZ",
    "bDOUBLE-STRUCK CAPITAL AeB.eDeEeFeG.eIeJeKeLeM.eO...eSeTeUeVeWeXeY.dSMALL AeBeCeDeEeFeGeHeI",
    "eJeKeLeMeNeOePeQeReSeTeUeVeWeXeYeZbBOLD FRAKTUR CAPITAL AeBeCeDeEeFeGeHeIeJeKeLeMeNeOePeQeR",
    "eSeTeUeVeWeXeYeZdSMALL AeBeCeDeEeFeGeHeIeJeKeLeMeNeOePeQeReSeTeUeVeWeXeYeZ",
    "bSANS-SERIF CAPITAL AeBeCeDeEeFeGeHeIeJeKeLeMeNeOePeQeReSeTeUeVeWeXeYeZdSMALL AeBeCeDeEeFeG",
    "eHeIeJeKeLeMeNeOePeQeReSeTeUeVeWeXeYeZdBOLD CAPITAL AfBfCfDfEfFfGfHfIfJfKfLfMfNfOfPfQfRfSfT",
    "fUfVfWfXfYfZeSMALL AfBfCfDfEfFfGfHfIfJfKfLfMfNfOfPfQfR"]⟩,
  ⟨0x1D600, [
    "aMATHEMATICAL SANS-SERIF BOLD SMALL SfTfUfVfWfXfYfZdITALIC CAPITAL AfBfCfDfEfFfGfHfIfJfKfL",
    "fMfNfOfPfQfRfSfTfUfVfWfXfYfZeSMALL AfBfCfDfEfFfGfHfIfJfKfLfMfNfOfPfQfRfSfTfUfVfWfXfYfZ",
    "dBOLD ITALIC CAPITAL AgBgCgDgEgFgGgHgIgJgKgLgMgNgOgPgQgRgSgTgUgVgWgXgYgZfSMALL AgBgCgDgEgF",
    "gGgHgIgJgKgLgMgNgOgPgQgRgSgTgUgVgWgXgYgZbMONOSPACE CAPITAL AdBdCdDdEdFdGdHdIdJdKdLdMdNdOdP",
    "dQdRdSdTdUdVdWdXdYdZcSMALL AdBdCdDdEdFdGdHdIdJdKdLdMdNdOdPdQdRdSdTdUdVdWdXdYdZ",
    "bITALIC SMALL DOTLESS IeJ..bBOLD CAPITAL ALPHAdBETAdGAMMAdDELTAdEPSILONdZETAdETAdTHETAdIOTA",
    "dKAPPAdLAMDAdMUdNUdXIdOMICRONdPIdRHOdTHETA SYMBOLdSIGMAdTAUdUPSILONdPHIdCHIdPSIdOMEGAcNABLA",
    "cSMALL ALPHAdBETAdGAMMAdDELTAdEPSILONdZETAdETAdTHETAdIOTAdKAPPAdLAMDAdMUdNUdXIdOMICRONdPI",
    "dRHOdFINAL SIGMAdSIGMAdTAUdUPSILONdPHIdCHIdPSIdOMEGAcPARTIAL DIFFERENTIALcEPSILON SYMBOL",
    "cTHETA SYMBOLcKAPPA SYMBOLcPHI SYMBOLcRHO SYMBOLcPI SYMBOLbITALIC CAPITAL ALPHAdBETAdGAMMA",
    "dDELTAdEPSILONdZETAdETAdTHETAdIOTAdKAPPAdLAMDAdMUdNUdXIdOMICRONdPIdRHOdTHETA SYMBOLdSIGMA",
    "dTAUdUPSILONdPHIdCHIdPSIdOMEGAcNABLAcSMALL ALPHAdBETAdGAMMAdDELTA"]⟩,
  ⟨0x1D700, [
    "aMATHEMATICAL ITALIC SMALL EPSILONdZETAdETAdTHETAdIOTAdKAPPAdLAMDAdMUdNUdXIdOMICRONdPIdRHO",
    "dFINAL SIGMAdSIGMAdTAUdUPSILONdPHIdCHIdPSIdOMEGAcPARTIAL DIFFERENTIALcEPSILON SYMBOL",
    "cTHETA SYMBOLcKAPPA SYMBOLcPHI SYMBOLcRHO SYMBOLcPI SYMBOLbBOLD ITALIC CAPITAL ALPHAeBETA",
    "eGAMMAeDELTAeEPSILONeZETAeETAeTHETAeIOTAeKAPPAeLAMDAeMUeNUeXIeOMICRONePIeRHOeTHETA SYMBOL",
    "eSIGMAeTAUeUPSILONePHIeCHIePSIeOMEGAdNABLAdSMALL ALPHAeBETAeGAMMAeDELTAeEPSILONeZETAeETA",
    "eTHETAeIOTAeKAPPAeLAMDAeMUeNUeXIeOMICRONePIeRHOeFINAL SIGMAeSIGMAeTAUeUPSILONePHIeCHIePSI",
    "eOMEGAdPARTIAL DIFFERENTIALdEPSILON SYMBOLdTHETA SYMBOLdKAPPA SYMBOLdPHI SYMBOLdRHO SYMBOL",
    "dPI SYMBOLbSANS-SERIF BOLD CAPITAL ALPHAfBETAfGAMMAfDELTAfEPSILONfZETAfETAfTHETAfIOTAfKAPPA",
    "fLAMDAfMUfNUfXIfOMICRONfPIfRHOfTHETA SYMBOLfSIGMAfTAUfUPSILONfPHIfCHIfPSIfOMEGAeNABLA",
    "eSMALL ALPHAfBETAfGAMMAfDELTAfEPSILONfZETAfETAfTHETAfIOTAfKAPPAfLAMDAfMUfNUfXIfOMICRONfPI",
    "fRHOfFINAL SIGMAfSIGMAfTAUfUPSILONfPHIfCHIfPSIfOMEGAePARTIAL DIFFERENTIALeEPSILON SYMBOL",
    "eTHETA SYMBOLeKAPPA SYMBOLePHI SYMBOLeRHO SYMBOLePI SYMBOLeITALIC CAPITAL ALPHAgBETAgGAMMA",
    "gDELTAgEPSILONgZETAgETAgTHETAgIOTAgKAPPAgLAMDAgMUgNUgXIgOMICRONgPIgRHOgTHETA SYMBOLgSIGMA",
    "gTAUgUPSILONgPHIgCHIgPSIgOMEGAfNABLAfSMALL ALPHAgBETAgGAMMAgDELTAgEPSILONgZETAgETAgTHETA",
    "gIOTAgKAPPAgLAMDAgMUgNUgXIgOMICRONgPIgRHOgFINAL SIGMAgSIGMAgTAUgUPSILONgPHIgCHIgPSIgOMEGA",
    "fPARTIAL DIFFERENTIALfEPSILON SYMBOLfTHETA SYMBOLfKAPPA SYMBOLfPHI SYMBOLfRHO SYMBOL",
    "fPI SYMBOLbBOLD CAPITAL DIGAMMAcSMALL DIGAMMA..cDIGIT ZEROdONEdTWOdTHREEdFOURdFIVEdSIX",
    "dSEVENdEIGHTdNINEbDOUBLE-STRUCK DIGIT ZEROeONEeTWOeTHREEeFOUReFIVEeSIXeSEVENeEIGHTeNINE",
    "bSANS-SERIF DIGIT ZEROeONEeTWOeTHREEeFOUReFIVEeSIXeSEVENeEIGHTeNINEdBOLD DIGIT ZEROfONEfTWO",
    "fTHREEfFOURfFIVEfSIXfSEVENfEIGHTfNINEbMONOSPACE DIGIT ZEROdONEdTWOdTHREEdFOURdFIVEdSIX",
    "dSEVENdEIGHTdNINE"]⟩,
  ⟨0x1D800, [
    "aSIGNWRITING HAND-FIST INDEXcCIRCLE INDEXcCUP INDEXcOVAL INDEXcHINGE INDEXcANGLE INDEX",
    "cFIST INDEX BENTcCIRCLE INDEX BENTcFIST THUMB UNDER INDEX BENTdINDEX RAISED KNUCKLEeCUPPED",
    "eHINGEDeHINGED LOWcCIRCLE INDEX HINGEcFIST INDEX MIDDLEcCIRCLE INDEX MIDDLE",
    "cFIST INDEX MIDDLE BENTfRAISED KNUCKLESfHINGEDeUP MIDDLE HINGEDeHINGED MIDDLE UP",
    "eMIDDLE CONJOINEDfCONJOINED INDEX BENTgMIDDLE BENTgCUPPEDgHINGEDfCROSSED",
    "cCIRCLE INDEX MIDDLE CROSSEDcFIST MIDDLE BENT OVER INDEXdINDEX BENT OVER MIDDLE",
    "eMIDDLE THUMBcCIRCLE INDEX MIDDLE THUMBcFIST INDEX MIDDLE STRAIGHT THUMB BENT",
    "fBENT THUMB STRAIGHTfTHUMB BENTfHINGED SPREAD THUMB SIDEeUP MIDDLE HINGED THUMB SIDE",
    "iCONJOINEDeHINGED MIDDLE UP THUMB SIDEeMIDDLE UP SPREAD THUMB FORWARDfTHUMB CUPPEDgCIRCLED",
    "gHOOKEDgHINGEDdTHUMB BETWEEN INDEX MIDDLE STRAIGHTdINDEX MIDDLE CONJOINED THUMB SIDE",
    "hSIDE CONJOINEDiBENTdMIDDLE THUMB HOOKED INDEX UPdINDEX THUMB HOOKED MIDDLE UP",
    "eMIDDLE CONJOINED HINGED THUMB SIDEfCROSSED THUMB SIDEfCONJOINED THUMB FORWARD",
    "gCUPPED THUMB FORWARDdMIDDLE THUMB CUPPED INDEX UPdINDEX THUMB CUPPED MIDDLE UP",
    "dMIDDLE THUMB CIRCLED INDEX UPhHINGEDdINDEX THUMB ANGLED OUT MIDDLE UPgIN MIDDLE UP",
    "fCIRCLED MIDDLE UPeMIDDLE THUMB CONJOINED HINGEDgANGLED OUTgANGLED",
    "dMIDDLE THUMB ANGLED OUT INDEX UPiCROSSEDgINDEX UPdINDEX THUMB HOOKED MIDDLE HINGED",
    "cFLAT FOUR FINGERSeFINGERS BENTfHINGEDfCONJOINEDfCONJOINED SPLIT",
    "cCLAW FOUR FINGERS CONJOINEDcFIST FOUR FINGERS CONJOINED BENTcHINGE FOUR FINGERS CONJOINED",
    "cFLAT FIVE FINGERS SPREADdHEEL FIVE FINGERS SPREADdFIVE FINGERS SPREAD FOUR BENT",
    "dHEEL FIVE FINGERS SPREAD FOUR BENTdFIVE FINGERS SPREAD BENTdHEEL FIVE FINGERS SPREAD BENT",
    "dFIVE FINGERS SPREAD THUMB FORWARDcCUP FIVE FINGERS SPREADfSPREAD OPEN",
    "cHINGE FIVE FINGERS SPREAD OPENcOVAL FIVE FINGERS SPREADcFLAT FIVE FINGERS SPREAD HINGED",
    "gHINGED THUMB SIDEhNO THUMBcFLATcFLAT BETWEEN PALM FACINGSdHEELdTHUMB SIDEdHEEL THUMB SIDE",
    "dTHUMB BENTeFORWARDdSPLIT INDEX THUMB SIDEeCENTREeCENTRE THUMB SIDEgSIDE BENTeLITTLEcCLAW",
    "cCLAW THUMB SIDEdNO THUMBdTHUMB FORWARDcHOOK CURLICUEcHOOKcCUP OPENcCUPcCUP OPEN THUMB SIDE",
    "dTHUMB SIDEdOPEN NO THUMBdNO THUMBdOPEN THUMB FORWARDdTHUMB FORWARDcCURLICUE OPENcCURLICUE",
    "cCIRCLEcOVALcOVAL THUMB SIDEdNO THUMBdTHUMB FORWARDcHINGE OPENdOPEN THUMB FORWARDcHINGE",
    "cHINGE SMALLdOPEN THUMB SIDEdTHUMB SIDEdOPEN NO THUMBdNO THUMBdTHUMB SIDE TOUCHING INDEX",
    "eBETWEEN MIDDLE RINGcANGLEcFIST INDEX MIDDLE RINGcCIRCLE INDEX MIDDLE RING",
    "cHINGE INDEX MIDDLE RINGcANGLE INDEX MIDDLE RINGcHINGE LITTLEcFIST INDEX MIDDLE RING BENT",
    "gCONJOINEDcHINGE INDEX MIDDLE RING CONJOINEDcFIST LITTLE DOWNeDOWN RIPPLE STRAIGHTgCURVED",
    "fOTHERS CIRCLEDeUPdTHUMB UNDER LITTLE UPcCIRCLE LITTLE UPcOVAL LITTLE UPcANGLE LITTLE UP",
    "cFIST LITTLE RAISED KNUCKLEeBENTeTOUCHES THUMBeTHUMBcHINGE LITTLE THUMB",
    "cFIST LITTLE INDEX THUMBcHINGE LITTLE INDEX THUMBcANGLE LITTLE INDEX THUMB INDEX THUMB OUT",
    "hTHUMBcFIST LITTLE INDEXcCIRCLE LITTLE INDEXcHINGE LITTLE INDEXcANGLE LITTLE INDEX",
    "cFIST INDEX MIDDLE LITTLEcCIRCLE INDEX MIDDLE LITTLEcHINGE INDEX MIDDLE LITTLEdRING",
    "cANGLE INDEX MIDDLE LITTLEcFIST INDEX MIDDLE CROSS LITTLEcCIRCLE INDEX MIDDLE CROSS LITTLE",
    "cFIST RING DOWNcHINGE RING DOWN INDEX THUMB HOOK MIDDLE",
    "cANGLE RING DOWN MIDDLE THUMB INDEX CROSScFIST RING UPeRAISED KNUCKLEeLITTLE",
    "cCIRCLE RING LITTLEcOVAL RING LITTLEcANGLE RING LITTLEcFIST RING MIDDLEeMIDDLE CONJOINED",
    "fRAISED KNUCKLESeINDEXeTHUMBcHOOK RING THUMBcFIST INDEX RING LITTLE",
    "cCIRCLE INDEX RING LITTLEcCURLICUE INDEX RING LITTLE ONcHOOK INDEX RING LITTLE OUTgINgUNDER",
    "cCUP INDEX RING LITTLEcHINGE INDEX RING LITTLEcANGLE INDEX RING LITTLE OUTfLITTLE",
    "cFIST MIDDLE DOWNcHINGE MIDDLEcFIST MIDDLE UPcCIRCLE MIDDLE UPcFIST MIDDLE RAISED KNUCKLE",
    "eUP THUMB SIDEcHOOK MIDDLE THUMBcFIST MIDDLE THUMB LITTLEeLITTLEeRING LITTLE",
    "cCIRCLE MIDDLE RING LITTLEcCURLICUE MIDDLE RING LITTLE ONcCUP MIDDLE RING LITTLE",
    "cHINGE MIDDLE RING LITTLEcANGLE MIDDLE RING LITTLE OUTgINfLITTLE",
    "cCIRCLE MIDDLE RING LITTLE BENTcCLAW MIDDLE RING LITTLE CONJOINEDgCONJOINED SIDE",
    "cHOOK MIDDLE RING LITTLE CONJOINED OUThINgCONJOINEDcHINGE INDEX HINGED",
    "cFIST INDEX THUMB SIDEcHINGE INDEX THUMB SIDEcFIST INDEX THUMB SIDE THUMB DIAGONAL",
    "hCONJOINEDhBENTgINDEX BENTgBOTH BENTgINDEX HINGEfFORWARD INDEX STRAIGHThBENTfHOOKfCURLICUE",
    "fCURVE THUMB INSIDEcCLAW INDEX THUMB CURVE THUMB INSIDEcFIST INDEX THUMB CURVE THUMB UNDER",
    "fCIRCLEcCUP INDEX THUMBeTHUMB OPENcHINGE INDEX THUMB OPENfLARGEeTHUMBeTHUMB SMALL",
    "cANGLE INDEX THUMB OUTfINeTHUMBcFIST THUMBdTHUMB HEELeSIDE DIAGONALfCONJOINEDfBENTeFORWARD",
    "eBETWEEN INDEX MIDDLEfMIDDLE RINGfRING LITTLEeUNDER TWO FINGERSeOVER TWO FINGERS"]⟩,
  ⟨0x1D900, [
    "aSIGNWRITING HAND-FIST THUMB UNDER THREE FINGERSfFOUR FINGERSeOVER FOUR RAISED KNUCKLES",
    "cFISTcFIST HEELbTOUCH SINGLEcMULTIPLEcBETWEENbGRASP SINGLEcMULTIPLEcBETWEENbSTRIKE SINGLE",
    "cMULTIPLEcBETWEENbBRUSH SINGLEcMULTIPLEcBETWEENbRUB SINGLEcMULTIPLEcBETWEENbSURFACE SYMBOLS",
    "cBETWEENbSQUEEZE LARGE SINGLEcSMALL SINGLEcLARGE MULTIPLEcSMALL MULTIPLEcSEQUENTIAL",
    "bFLICK LARGE SINGLEcSMALL SINGLEcLARGE MULTIPLEcSMALL MULTIPLEcSEQUENTIAL",
    "bSQUEEZE FLICK ALTERNATINGbMOVEMENT-HINGE UP DOWN LARGEfSMALLeSEQUENTIALdDOWN SEQUENTIAL",
    "dUP DOWN ALTERNATING LARGEgSMALLdSIDE TO SIDE SCISSORScWALLPLANE FINGER CONTACT",
    "cFLOORPLANE FINGER CONTACTcWALLPLANE SINGLE STRAIGHT SMALLfMEDIUMfLARGEfLARGESTeWRIST FLEX",
    "dDOUBLE STRAIGHTeWRIST FLEXeALTERNATINGeALTERNATING WRIST FLEXdCROSS",
    "dTRIPLE STRAIGHT MOVEMENTeWRIST FLEXeALTERNATINGeALTERNATING WRIST FLEXdBEND SMALLeMEDIUM",
    "eLARGEdCORNER SMALLeMEDIUMeLARGEeROTATIONdCHECK SMALLeMEDIUMeLARGEdBOX SMALLeMEDIUMeLARGE",
    "dZIGZAG SMALLeMEDIUMeLARGEdPEAKS SMALLeMEDIUMeLARGE",
    "bTRAVEL-WALLPLANE ROTATION-WALLPLANE SINGLEfDOUBLEfALTERNATINGeFLOORPLANE SINGLEfDOUBLE",
    "fALTERNATINGdSHAKINGdARM SPIRAL SINGLEfDOUBLEfTRIPLEbMOVEMENT-DIAGONAL AWAY SMALLeMEDIUM",
    "eLARGEeLARGESTdTOWARDS SMALLeMEDIUMeLARGEeLARGESTdBETWEEN AWAY SMALLfMEDIUMfLARGEfLARGEST",
    "eTOWARDS SMALLfMEDIUMfLARGEfLARGESTcFLOORPLANE SINGLE STRAIGHT SMALLfMEDIUMfLARGEfLARGEST",
    "eWRIST FLEXdDOUBLE STRAIGHTeWRIST FLEXeALTERNATINGeALTERNATING WRIST FLEXdCROSS",
    "dTRIPLE STRAIGHT MOVEMENTeWRIST FLEXeALTERNATING MOVEMENTfWRIST FLEXdBENDdCORNER SMALL",
    "eMEDIUMeLARGEdCHECKdBOX SMALLeMEDIUMeLARGEdZIGZAG SMALLeMEDIUMeLARGEdPEAKS SMALLeMEDIUM",
    "eLARGEbTRAVEL-FLOORPLANE ROTATION-FLOORPLANE SINGLEfDOUBLEfALTERNATINGeWALLPLANE SINGLE",
    "fDOUBLEfALTERNATINGdSHAKINGbMOVEMENT-WALLPLANE CURVE QUARTER SMALLfMEDIUMfLARGEfLARGEST",
    "eHALF-CIRCLE SMALLgMEDIUMgLARGEgLARGESTeTHREE-QUARTER CIRCLE SMALLhMEDIUMdHUMP SMALLeMEDIUM",
    "eLARGEdLOOP SMALLeMEDIUMeLARGEeSMALL DOUBLEdWAVE CURVE DOUBLE SMALLgMEDIUMgLARGE",
    "fTRIPLE SMALLgMEDIUMgLARGEdCURVE THEN STRAIGHTdCURVED CROSS SMALLfMEDIUM",
    "bROTATION-WALLPLANE SINGLEdDOUBLEdALTERNATEbMOVEMENT-WALLPLANE SHAKING",
    "dCURVE HITTING FRONT WALLdHUMP HITTING FRONT WALLdLOOP HITTING FRONT WALL",
    "dWAVE HITTING FRONT WALLbROTATION-WALLPLANE SINGLE HITTING FRONT WALL",
    "dDOUBLE HITTING FRONT WALLdALTERNATING HITTING FRONT WALL",
    "bMOVEMENT-WALLPLANE CURVE HITTING CHESTdHUMP HITTING CHESTdLOOP HITTING CHEST",
    "dWAVE HITTING CHESTbROTATION-WALLPLANE SINGLE HITTING CHESTdDOUBLE HITTING CHEST",
    "dALTERNATING HITTING CHESTbMOVEMENT-WALLPLANE WAVE DIAGONAL PATH SMALLgMEDIUMgLARGE",
    "cFLOORPLANE CURVE HITTING CEILING SMALLgLARGEdHUMP HITTING CEILING SMALL DOUBLE",
    "gLARGE DOUBLEgSMALL TRIPLEgLARGE TRIPLEdLOOP HITTING CEILING SMALL SINGLEgLARGE SINGLE",
    "gSMALL DOUBLEgLARGE DOUBLEdWAVE HITTING CEILING SMALLgLARGE",
    "bROTATION-FLOORPLANE SINGLE HITTING CEILINGdDOUBLE HITTING CEILING",
    "dALTERNATING HITTING CEILINGbMOVEMENT-FLOORPLANE CURVE HITTING FLOOR SMALLgLARGE",
    "dHUMP HITTING FLOOR SMALL DOUBLEgLARGE DOUBLEgTRIPLE SMALL TRIPLEhLARGE TRIPLE",
    "dLOOP HITTING FLOOR SMALL SINGLEgLARGE SINGLEgSMALL DOUBLEgLARGE DOUBLE",
    "dWAVE HITTING FLOOR SMALLgLARGEbROTATION-FLOORPLANE SINGLE HITTING FLOOR",
    "dDOUBLE HITTING FLOORdALTERNATING HITTING FLOORbMOVEMENT-FLOORPLANE CURVE SMALLeMEDIUM",
    "eLARGEeLARGESTeCOMBINEDdHUMP SMALLdLOOP SMALLdWAVE SNAKEeSMALLeLARGE",
    "bROTATION-FLOORPLANE SINGLEdDOUBLEdALTERNATINGbMOVEMENT-FLOORPLANE SHAKING PARALLEL",
    "cWALLPLANE ARM CIRCLE SMALL SINGLEfMEDIUM SINGLEfSMALL DOUBLEfMEDIUM DOUBLE",
    "cFLOORPLANE ARM CIRCLE HITTING WALL SMALL SINGLEhMEDIUM SINGLEhLARGE SINGLEhSMALL DOUBLE",
    "hMEDIUM DOUBLEhLARGE DOUBLEcWALLPLANE WRIST CIRCLE FRONT SINGLEgDOUBLE",
    "cFLOORPLANE WRIST CIRCLE HITTING WALL SINGLEhDOUBLEcWALLPLANE FINGER CIRCLES SINGLEfDOUBLE",
    "cFLOORPLANE FINGER CIRCLES HITTING WALL SINGLEhDOUBLEbDYNAMIC ARROWHEAD SMALLdLARGEcFAST",
    "cSLOWcTENSEcRELAXEDcSIMULTANEOUScSIMULTANEOUS ALTERNATINGcEVERY OTHER TIMEcGRADUALbHEAD"]⟩,
  ⟨0x1DA00, [
    "aSIGNWRITING HEAD RIMcMOVEMENT-WALLPLANE STRAIGHTeTILTdFLOORPLANE STRAIGHTdWALLPLANE CURVE",
    "dFLOORPLANE CURVEcMOVEMENT CIRCLEbFACE DIRECTION POSITION NOSE FORWARD TILTINGfUP OR DOWN",
    "hDOWN TILTINGbEYEBROWS STRAIGHT UPdNEUTRALdDOWNbDREAMY EYEBROWS NEUTRAL DOWNdDOWN NEUTRAL",
    "dUP NEUTRALdNEUTRAL UPbFOREHEAD NEUTRALcCONTACTcWRINKLEDbEYES OPENcSQUEEZEDcCLOSED",
    "bEYE BLINK SINGLEdMULTIPLEbEYES HALF OPENcWIDE OPENcHALF CLOSEDcWIDENING MOVEMENTbEYE WINK",
    "bEYELASHES UPcDOWNcFLUTTERINGbEYEGAZE-WALLPLANE STRAIGHTdSTRAIGHT DOUBLEeALTERNATING",
    "cFLOORPLANE STRAIGHTdSTRAIGHT DOUBLEeALTERNATINGcWALLPLANE CURVEDcFLOORPLANE CURVED",
    "cWALLPLANE CIRCLINGbCHEEKS PUFFEDcNEUTRALcSUCKEDbTENSE CHEEKS HIGHdMIDDLEdLOWbEARS",
    "bNOSE NEUTRALcCONTACTcWRINKLEScWIGGLESbAIR BLOWING OUTcSUCKING INcBLOW SMALL ROTATIONS",
    "cSUCK SMALL ROTATIONSbBREATH INHALEcEXHALEbMOUTH CLOSED NEUTRALdFORWARDdCONTACTcSMILE",
    "cSMILE WRINKLEDdOPENcFROWNcFROWN WRINKLEDdOPENcOPEN CIRCLEdFORWARDdWRINKLEDdOVAL",
    "dOVAL WRINKLEDeYAWNdRECTANGLEdRECTANGLE WRINKLEDeYAWNcKISScKISS FORWARDdWRINKLEDcTENSE",
    "cTENSE FORWARDdSUCKEDbLIPS PRESSED TOGETHERbLIP LOWER OVER UPPERcUPPER OVER LOWER",
    "bMOUTH CORNERScWRINKLES SINGLEdDOUBLEbTONGUE STICKING OUT FARcLICKING LIPScTIP BETWEEN LIPS",
    "dTOUCHING INSIDE MOUTHcINSIDE MOUTH RELAXEDcMOVES AGAINST CHEEKcCENTRE STICKING OUT",
    "dINSIDE MOUTHbTEETHbTEETH MOVEMENTcON TONGUEdTONGUE MOVEMENTdLIPSdLIPS MOVEMENTcBITE LIPS",
    "bMOVEMENT-WALLPLANE JAWcFLOORPLANE JAWbNECKbHAIRbEXCITEMENTbSHOULDER HIP SPINEdPOSITIONS",
    "bWALLPLANE SHOULDER HIP MOVEbFLOORPLANE SHOULDER HIP MOVEbSHOULDER TILTING FROM WAIST",
    "bTORSO-WALLPLANE STRAIGHT STRETCHdCURVED BENDcFLOORPLANE TWISTING",
    "bUPPER BODY TILTING FROM HIP JOINTSbLIMB COMBINATIONcLENGTH-1d2d3d4d5d6d7bFINGER",
    "bLOCATION-WALLPLANE SPACEcFLOORPLANE SPACEbLOCATION HEIGHTcWIDTHcDEPTHcHEAD NECKcTORSO",
    "cLIMBS DIGITSbCOMMAbFULL STOPbSEMICOLONbCOLONbPARENTHESIS...............bFILL MODIFIER-2d3",
    "d4d5d6.bROTATION MODIFIER-2d3d4d5d6d7d8d9d10d11d12d13d14d15d16"]⟩,
  ⟨0x1DF00, [
    "aLATIN SMALL LETTER FENG DIGRAPH WITH TRILLdREVERSED SCRIPT GbLETTER SMALL CAPITAL TURNED G",
    "bSMALL LETTER REVERSED KbLETTER SMALL CAPITAL L WITH BELT",
    "bSMALL LETTER LEZH WITH RETROFLEX HOOKdTURNED Y WITH BELTdREVERSED ENG",
    "dTURNED R WITH LONG LEG AND RETROFLEX HOOKdT WITH HOOK AND RETROFLEX HOOK",
    "bLETTER RETROFLEX CLICK WITH RETROFLEX HOOKbSMALL LETTER ESH WITH DOUBLE BARgBAR AND CURL",
    "dTURNED T WITH CURLbLETTER INVERTED GLOTTAL STOP WITH CURLcSTRETCHED C WITH CURL",
    "cSMALL CAPITAL TURNED KbSMALL LETTER L WITH FISHHOOKdDEZH DIGRAPH WITH PALATAL HOOK",
    "dL WITH BELT AND PALATAL HOOKdENG WITH PALATAL HOOKdTURNED R WITH PALATAL HOOK",
    "dR WITH FISHHOOK AND PALATAL HOOKdTESH DIGRAPH WITH PALATAL HOOKdEZH WITH PALATAL HOOK",
    "dDEZH DIGRAPH WITH RETROFLEX HOOKdI WITH STROKE AND RETROFLEX HOOKdO WITH RETROFLEX HOOK",
    "dTESH DIGRAPH WITH RETROFLEX HOOKdC WITH RETROFLEX HOOKdS WITH CURL"]⟩,
  ⟨0x1E000, [
    "aCOMBINING GLAGOLITIC LETTER AZUdBUKYdVEDEdGLAGOLIdDOBROdYESTUdZHIVETE.dZEMLJAdIZHE",
    "dINITIAL IZHEdIdDJERVIdKAKOdLJUDIJEdMYSLITEdNASHIdONUdPOKOJIdRITSIdSLOVOdTVRIDOdUKUdFRITU",
    "dHERU..dSHTAdTSIdCHRIVIdSHAdYERUdYERIdYATI.dYUdSMALL YUS.dYOdIOTATED SMALL YUSdBIG YUS",
    "dIOTATED BIG YUSdFITA"]⟩,
  ⟨0x1E100, [
    "aNYIAKENG PUACHUE HMONG LETTER MAeTSAeNTAeTAeHAeNAeXAeNKAeCAeLAeSAeZAeNCAeNTSAeKAeDAeNYA",
    "eNRAeVAeNTXAeTXAeFAeRAeQAeYAeNQAePAeXYAeNPAeDLAeNPLAeHAHeMLAePLAeGAeRRAeAeAAeIeUeOeOOeEeEE",
    "eW...dTONE-BeMeJeVeSeGeDdSIGN FOR PERSONfTHINGfLOCATIONfANIMALfINVERTEBRATEeXW XW",
    "dSYLLABLE LENGTHENER..dDIGIT ZEROeONEeTWOeTHREEeFOUReFIVEeSIXeSEVENeEIGHTeNINE....",
    "dLOGOGRAM NYAJdCIRCLED CA"]⟩,
  ⟨0x1E290, [
    "aTOTO LETTER PAcBAcTAcDAcKAcGAcMAcNAcNGAcSAcCHAcYAcWAcJAcHAcRAcLAcIcBREATHY IcIUcBREATHY IU",
    "cUcEcBREATHY EcEOcBREATHY EOcOcAEcBREATHY AEcAbSIGN RISING TONE.................",
    "aWANCHO LETTER AAcAcBAcCAcDAcGAcYAcPHAcLAcNAcPAcTAcTHAcFAcSAcSHAcJAcZAcWAcVAcKAcOcAUcRAcMA",
    "cKHAcHAcEcIcNGAcUcLLHAcTSAcTRAcONGcAANGcANGcINGcONcENcAANcNYAcUENcYIHbTONE TUPcTUPNIcKOI",
    "cKOINIbDIGIT ZEROcONEcTWOcTHREEcFOURcFIVEcSIXcSEVENcEIGHTcNINE.....bNGUN SIGN"]⟩,
  ⟨0x1E7E0, [
    "aETHIOPIC SYLLABLE HHYAcHHYUcHHYIcHHYAAcHHYEEcHHYEcHHYO.cGURAGE HHWAcHHWIcHHWEEcHHWE.",
    "cGURAGE MWIdMWEE.dQWIdQWEEdQWEdBWIdBWEEdKWIdKWEEdKWEdGWIdGWEEdGWEdFWIdFWEEdPWIdPWEE"]⟩,
  ⟨0x1E800, [
    "aMENDE KIKAKUI SYLLABLE M001 KIdM002 KAdM003 KUdM065 KEEdM095 KEdM076 KOOdM048 KOdM179 KUA",
    "dM004 WIdM005 WAdM006 WUdM126 WEEdM118 WEdM114 WOOdM045 WOdM194 WUIdM143 WEIdM061 WVI",
    "dM049 WVAdM139 WVEdM007 MINdM008 MANdM009 MUNdM059 MENdM094 MONdM154 MUANdM189 MUENdM010 BI",
    "dM011 BAdM012 BUdM150 BEEdM097 BEdM103 BOOdM138 BOdM013 IdM014 AdM015 UdM163 EEdM100 E",
    "dM165 OOdM147 OdM137 EIdM131 INdM135 INdM195 ANdM178 ENdM019 SIdM020 SAdM021 SUdM162 SEE",
    "dM116 SEdM136 SOOdM079 SOdM196 SIAdM025 LIdM026 LAdM027 LUdM084 LEEdM073 LEdM054 LOO",
    "dM153 LOdM110 LONG LEdM016 DIdM017 DAdM018 DUdM089 DEEdM180 DOOdM181 DOdM022 TIdM023 TA",
    "dM024 TUdM091 TEEdM055 TEdM104 TOOdM069 TOdM028 JIdM029 JAdM030 JUdM157 JEEdM113 JE",
    "dM160 JOOdM063 JOdM175 LONG JOdM031 YIdM032 YAdM033 YUdM109 YEEdM080 YEdM141 YOOdM121 YO",
    "dM034 FIdM035 FAdM036 FUdM078 FEEdM075 FEdM133 FOOdM088 FOdM197 FUAdM101 FANdM037 NIN",
    "dM038 NANdM039 NUNdM117 NENdM169 NONdM176 HIdM041 HAdM186 HUdM040 HEEdM096 HEdM042 HOO",
    "dM140 HOdM083 HEEIdM128 HOOUdM053 HINdM130 HANdM087 HUNdM052 HENdM193 HONdM046 HUAN",
    "dM090 NGGIdM043 NGGAdM082 NGGUdM115 NGGEEdM146 NGGEdM156 NGGOOdM120 NGGOdM159 NGGAA",
    "dM127 NGGUAdM086 LONG NGGEdM106 LONG NGGOOdM183 LONG NGGOdM155 GIdM111 GAdM168 GUdM190 GEE",
    "dM166 GUEIdM167 GUANdM184 NGENdM057 NGONdM177 NGUANdM068 PIdM099 PAdM050 PUdM081 PEE",
    "dM051 PEdM102 POOdM066 POdM145 MBIdM062 MBAdM122 MBUdM047 MBEEdM188 MBEEdM072 MBEdM172 MBOO",
    "dM174 MBOdM187 MBUUdM161 LONG MBEdM105 LONG MBOOdM142 LONG MBOdM132 KPIdM092 KPAdM074 KPU",
    "dM044 KPEEdM108 KPEdM112 KPOOdM158 KPOdM124 GBIdM056 GBAdM148 GBUdM093 GBEEdM107 GBE",
    "dM071 GBOOdM070 GBOdM171 RAdM123 NDIdM129 NDAdM125 NDUdM191 NDEEdM119 NDEdM067 NDOO",
    "dM064 NDOdM152 NJAdM192 NJUdM149 NJEEdM134 NJOOdM182 VIdM185 VAdM151 VUdM173 VEEdM085 VE",
    "dM144 VOOdM077 VOdM164 NYINdM058 NYANdM170 NYUNdM098 NYENdM060 NYON..cDIGIT ONEdTWOdTHREE",
    "dFOURdFIVEdSIXdSEVENdEIGHTdNINEcCOMBINING NUMBER TEENSeTENSeHUNDREDSeTHOUSANDS",
    "eTEN THOUSANDSeHUNDRED THOUSANDSeMILLIONS"]⟩,
  ⟨0x1E900, [
    "aADLAM CAPITAL LETTER ALIFdDAALIdLAAMdMIIMdBAdSINNYIIYHEdPEdBHEdRAdEdFAdIdOdDHAdYHEdWAWdNUN",
    "dKAFdYAdUdJIIMdCHIdHAdQAAFdGAdNYAdTUdNHAdVAdKHAdGBEdZALdKPOdSHAbSMALL LETTER ALIFdDAALI",
    "dLAAMdMIIMdBAdSINNYIIYHEdPEdBHEdRAdEdFAdIdOdDHAdYHEdWAWdNUNdKAFdYAdUdJIIMdCHIdHAdQAAFdGA",
    "dNYAdTUdNHAdVAdKHAdGBEdZALdKPOdSHAbALIF LENGTHENERbVOWEL LENGTHENERbGEMINATION MARKbHAMZA",
    "bCONSONANT MODIFIERbGEMINATE CONSONANT MODIFIERbNUKTAbNASALIZATION MARK....bDIGIT ZEROcONE",
    "cTWOcTHREEcFOURcFIVEcSIXcSEVENcEIGHTcNINE....bINITIAL EXCLAMATION MARKcQUESTION MARK"]⟩,
  ⟨0x1EC71, [
    "aINDIC SIYAQ NUMBER ONEdTWOdTHREEdFOURdFIVEdSIXdSEVENdEIGHTdNINEdTENdTWENTYdTHIRTYdFORTY",
    "dFIFTYdSIXTYdSEVENTYdEIGHTYdNINETYdONE HUNDREDdTWO HUNDREDdTHREE HUNDREDdFOUR HUNDRED",
    "dFIVE HUNDREDdSIX HUNDREDdSEVEN HUNDREDdEIGHT HUNDREDdNINE HUNDREDdONE THOUSAND",
    "dTWO THOUSANDdTHREE THOUSANDdFOUR THOUSANDdFIVE THOUSANDdSIX THOUSANDdSEVEN THOUSAND",
    "dEIGHT THOUSANDdNINE THOUSANDdTEN THOUSANDdTWENTY THOUSANDdTHIRTY THOUSANDdFORTY THOUSAND",
    "dFIFTY THOUSANDdSIXTY THOUSANDdSEVENTY THOUSANDdEIGHTY THOUSANDdNINETY THOUSANDdLAKHdLAKHAN",
    "cLAKH MARKcNUMBER KARORdKARORANdPREFIXED ONEeTWOeTHREEeFOUReFIVEeSIXeSEVENeEIGHTeNINE",
    "cPLACEHOLDERcFRACTION ONE QUARTEReHALFdTHREE QUARTERScRUPEE MARKcNUMBER ALTERNATE ONEeTWO",
    "eTEN THOUSANDcALTERNATE LAKH MARK"]⟩,
  ⟨0x1ED01, [
    "aOTTOMAN SIYAQ NUMBER ONEdTWOdTHREEdFOURdFIVEdSIXdSEVENdEIGHTdNINEdTENdTWENTYdTHIRTYdFORTY",
    "dFIFTYdSIXTYdSEVENTYdEIGHTYdNINETYdONE HUNDREDdTWO HUNDREDdTHREE HUNDREDdFOUR HUNDRED",
    "dFIVE HUNDREDdSIX HUNDREDdSEVEN HUNDREDdEIGHT HUNDREDdNINE HUNDREDdONE THOUSAND",
    "dTWO THOUSANDdTHREE THOUSANDdFOUR THOUSANDdFIVE THOUSANDdSIX THOUSANDdSEVEN THOUSAND",
    "dEIGHT THOUSANDdNINE THOUSANDdTEN THOUSANDdTWENTY THOUSANDdTHIRTY THOUSANDdFORTY THOUSAND",
    "dFIFTY THOUSANDdSIXTY THOUSANDdSEVENTY THOUSANDdEIGHTY THOUSANDdNINETY THOUSANDcMARRATAN",
    "cALTERNATE NUMBER TWOeTHREEeFOUReFIVEeSIXeSEVENeEIGHTeNINEeTENeFOUR HUNDREDeSIX HUNDRED",
    "eTWO THOUSANDeTEN THOUSANDcFRACTION ONE HALFeSIXTH"]⟩,
  ⟨0x1EE00, [
    "aARABIC MATHEMATICAL ALEFcBEHcJEEMcDAL.cWAWcZAINcHAHcTAHcYEHcKAFcLAMcMEEMcNOONcSEENcAINcFEH",
    "cSADcQAFcREHcSHEENcTEHcTHEHcKHAHcTHALcDADcZAHcGHAINcDOTLESS BEHdNOONdFEHdQAF.cINITIAL BEH",
    "dJEEM.dHEH..dHAH.dYEHdKAFdLAMdMEEMdNOONdSEENdAINdFEHdSADdQAF.dSHEENdTEHdTHEHdKHAH.dDAD.",
    "dGHAIN......cTAILED JEEM....dHAH.dYEH.dLAM.dNOONdSEENdAIN.dSADdQAF.dSHEEN..dKHAH.dDAD.",
    "dGHAIN.dDOTLESS NOON.eQAF.cSTRETCHED BEHdJEEM.dHEH..dHAHdTAHdYEHdKAF.dMEEMdNOONdSEENdAIN",
    "dFEHdSADdQAF.dSHEENdTEHdTHEHdKHAH.dDADdZAHdGHAINdDOTLESS BEH.eFEH.cLOOPED ALEFdBEHdJEEMdDAL",
    "dHEHdWAWdZAINdHAHdTAHdYEH.dLAMdMEEMdNOONdSEENdAINdFEHdSADdQAFdREHdSHEENdTEHdTHEHdKHAHdTHAL",
    "dDADdZAHdGHAIN.....cDOUBLE-STRUCK BEHeJEEMeDAL.eWAWeZAINeHAHeTAHeYEH.eLAMeMEEMeNOONeSEEN",
    "eAINeFEHeSADeQAFeREHeSHEENeTEHeTHEHeKHAHeTHALeDADeZAHeGHAIN"]⟩,
  ⟨0x1EEF0, ["aARABIC MATHEMATICAL OPERATOR MEEM WITH HAH WITH TATWEELdHAH WITH DAL"]⟩]

end LogHarvest.Text.Table
